import Mathlib.Data.List.Basic
import Mathlib.Logic.Relation

set_option autoImplicit false

/- Finite runs of deterministic transition functions and of step relations, and
the rules that lift facts about one step to facts about every run. -/

namespace Run

variable {σ ι : Type}

/-- The state reached by feeding a finite list of inputs. -/
def run (step : σ → ι → σ) (state : σ) (inputs : List ι) : σ :=
  inputs.foldl step state

@[simp] theorem run_nil (step : σ → ι → σ) (state : σ) : run step state [] = state := rfl

@[simp] theorem run_cons (step : σ → ι → σ) (state : σ) (input : ι) (inputs : List ι) :
    run step state (input :: inputs) = run step (step state input) inputs := rfl

theorem run_append (step : σ → ι → σ) (state : σ) (first second : List ι) :
    run step state (first ++ second) = run step (run step state first) second :=
  List.foldl_append

/-- Every step of the run, taken in the state it is taken in, meets `allowed`. -/
def Allowed (step : σ → ι → σ) (allowed : σ → ι → Prop) : σ → List ι → Prop
  | _, [] => True
  | state, input :: inputs => allowed state input ∧ Allowed step allowed (step state input) inputs

instance decidableAllowed (step : σ → ι → σ) (allowed : σ → ι → Prop)
    [decide : ∀ state input, Decidable (allowed state input)] :
    ∀ state inputs, Decidable (Allowed step allowed state inputs)
  | _, [] => isTrue trivial
  | state, input :: inputs =>
    @instDecidableAnd _ _ (decide state input)
      (decidableAllowed step allowed (step state input) inputs)

theorem allowed_append (step : σ → ι → σ) (allowed : σ → ι → Prop) (state : σ)
    (first second : List ι) :
    Allowed step allowed state (first ++ second) ↔
      Allowed step allowed state first ∧ Allowed step allowed (run step state first) second := by
  induction first generalizing state with
  | nil => simp [Allowed, run_nil]
  | cons input first ih => simp [Allowed, run_cons, ih, and_assoc]

/-- Two conditions on steps that agree in the states their runs can reach. -/
theorem allowed_congr (step : σ → ι → σ) (first second : σ → ι → Prop) (sound : σ → Prop)
    (same : ∀ state input, sound state → (first state input ↔ second state input))
    (keeps : ∀ state input, sound state → second state input → sound (step state input))
    (state : σ) (inputs : List ι) (valid : sound state) :
    Allowed step first state inputs ↔ Allowed step second state inputs := by
  induction inputs generalizing state with
  | nil => exact Iff.rfl
  | cons input inputs ih =>
    simp only [Allowed, same state input valid]
    exact and_congr_right fun meets => ih (step state input) (keeps state input valid meets)

/-- What one allowed step preserves, an allowed run preserves. -/
theorem invariant_of_allowed (step : σ → ι → σ) (allowed : σ → ι → Prop) (holds : σ → Prop)
    (state : σ) (inputs : List ι)
    (preserves : ∀ state, ∀ input ∈ inputs, holds state → allowed state input →
      holds (step state input))
    (initial : holds state) (meets : Allowed step allowed state inputs) :
    holds (run step state inputs) := by
  induction inputs generalizing state with
  | nil => exact initial
  | cons input inputs ih =>
    refine ih (step state input) ?_ (preserves state input List.mem_cons_self initial meets.1)
      meets.2
    intro later other member
    exact preserves later other (List.mem_cons_of_mem input member)

/-- If a step keeps `holds` exactly when it is allowed, a run keeps it throughout
exactly when all its steps are allowed. -/
theorem always_iff_allowed (step : σ → ι → σ) (allowed : σ → ι → Prop) (holds sound : σ → Prop)
    (keeps : ∀ state input, sound state → sound (step state input))
    (precise : ∀ state input, sound state → holds state →
      (holds (step state input) ↔ allowed state input))
    (state : σ) (inputs : List ι) (valid : sound state) (initial : holds state) :
    (∀ front, front <+: inputs → holds (run step state front)) ↔
      Allowed step allowed state inputs := by
  induction inputs generalizing state with
  | nil => simp [run_nil, initial, Allowed]
  | cons input inputs ih =>
    have next := precise state input valid initial
    constructor
    · intro always
      have first : holds (step state input) := always [input] ⟨inputs, rfl⟩
      refine ⟨next.mp first, (ih _ (keeps state input valid) first).mp ?_⟩
      intro front part
      exact always (input :: front) ((List.prefix_cons_inj input).mpr part)
    · intro meets front part
      cases front with
      | nil => exact initial
      | cons other front =>
        obtain ⟨rfl, rest⟩ := List.cons_prefix_cons.mp part
        exact (ih _ (keeps state other valid) (next.mpr meets.1)).mpr meets.2 front rest

/-- What every step on an acceptable input preserves, a run over acceptable inputs preserves. -/
theorem invariant_of_mem (step : σ → ι → σ) (holds : σ → Prop) (acceptable : ι → Prop)
    (preserves : ∀ state input, holds state → acceptable input → holds (step state input))
    (state : σ) (inputs : List ι) (initial : holds state)
    (meets : ∀ input ∈ inputs, acceptable input) : holds (run step state inputs) := by
  induction inputs generalizing state with
  | nil => exact initial
  | cons input inputs ih =>
    obtain ⟨first, rest⟩ := List.forall_mem_cons.mp meets
    exact ih (step state input) (preserves state input initial first) rest

/-- What every step preserves, every run preserves. -/
theorem invariant (step : σ → ι → σ) (holds : σ → Prop)
    (preserves : ∀ state input, holds state → holds (step state input))
    (state : σ) (inputs : List ι) (initial : holds state) : holds (run step state inputs) := by
  induction inputs generalizing state with
  | nil => exact initial
  | cons input inputs ih => exact ih (step state input) (preserves state input initial)

/-- What every step of a relation preserves, finitely many steps preserve. -/
theorem invariant_of_steps {step : σ → σ → Prop} (holds : σ → Prop)
    (preserves : ∀ before after, step before after → holds before → holds after)
    {first last : σ} (steps : Relation.ReflTransGen step first last) (initial : holds first) :
    holds last := by
  induction steps with
  | refl => exact initial
  | tail _ step ih => exact preserves _ _ step ih

end Run
