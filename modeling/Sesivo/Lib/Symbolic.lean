import Mathlib.Data.Set.Basic

set_option autoImplicit false

/- Messages under ideal encryption, and what can be derived from a set of them. -/

namespace Symbolic

variable {α : Type}

/-- Keys are atoms; a box is addressed to the public key of a pair. -/
inductive Term (α : Type) where
  | plain
  | atom (value : α)
  | pair (left right : Term α)
  | hash (body : Term α)
  | locked (key : α) (body : Term α)
  | boxed (publicKey : α) (body : Term α)

/-- What follows from the known messages, where `computes` says which atom can be
computed from which, and `opens` which secret key belongs to which public key. -/
inductive Derives (computes opens : α → α → Prop) (known : Set (Term α)) : Term α → Prop where
  | given {term : Term α} (member : term ∈ known) : Derives computes opens known term
  | plain : Derives computes opens known .plain
  | compute {value result : α} (source : Derives computes opens known (.atom value))
      (computed : computes value result) : Derives computes opens known (.atom result)
  | pair {left right : Term α} (first : Derives computes opens known left)
      (second : Derives computes opens known right) : Derives computes opens known (.pair left right)
  | left {left right : Term α} (both : Derives computes opens known (.pair left right)) :
      Derives computes opens known left
  | right {left right : Term α} (both : Derives computes opens known (.pair left right)) :
      Derives computes opens known right
  | hash {body : Term α} (inside : Derives computes opens known body) :
      Derives computes opens known (.hash body)
  | lock {key : α} {body : Term α} (held : Derives computes opens known (.atom key))
      (inside : Derives computes opens known body) : Derives computes opens known (.locked key body)
  | unlock {key : α} {body : Term α} (message : Derives computes opens known (.locked key body))
      (held : Derives computes opens known (.atom key)) : Derives computes opens known body
  | box {publicKey : α} {body : Term α} (address : Derives computes opens known (.atom publicKey))
      (inside : Derives computes opens known body) :
      Derives computes opens known (.boxed publicKey body)
  | unbox {publicKey secretKey : α} {body : Term α}
      (message : Derives computes opens known (.boxed publicKey body))
      (held : Derives computes opens known (.atom secretKey))
      (matching : opens secretKey publicKey) : Derives computes opens known body

/-- Every atom that could be taken out of the message satisfies `holds`. -/
def Term.Within (holds : α → Prop) : Term α → Prop
  | .plain => True
  | .atom value => holds value
  | .pair left right => left.Within holds ∧ right.Within holds
  | .hash _ => True
  | .locked _ body => body.Within holds
  | .boxed _ body => body.Within holds

theorem Derives.within {computes opens : α → α → Prop} {known : Set (Term α)} {holds : α → Prop}
    (closed : ∀ value result, computes value result → holds value → holds result)
    (start : ∀ term ∈ known, term.Within holds) {term : Term α}
    (derived : Derives computes opens known term) : term.Within holds := by
  induction derived with
  | given member => exact start _ member
  | plain => trivial
  | compute _ computed source => exact closed _ _ computed source
  | pair _ _ first second => exact ⟨first, second⟩
  | left _ both => exact both.1
  | right _ both => exact both.2
  | hash => trivial
  | lock _ _ _ inside => exact inside
  | unlock _ _ message => exact message
  | box _ _ _ inside => exact inside
  | unbox _ _ _ message => exact message

variable (computes opens : α → α → Prop) (known : Set (Term α))

/-- The message gives no new atom to someone with the known messages. -/
def Shielded : Term α → Prop
  | .plain => True
  | .atom value => Derives computes opens known (.atom value)
  | .pair left right => Shielded left ∧ Shielded right
  | .hash _ => True
  | .locked key body => Derives computes opens known (.atom key) → Shielded body
  | .boxed publicKey body =>
    ∀ secretKey, opens secretKey publicKey → Derives computes opens known (.atom secretKey) →
      Shielded body

/-- What can be derived anyway gives nothing new. -/
theorem shielded_of_derives {term : Term α} (derived : Derives computes opens known term) :
    Shielded computes opens known term := by
  induction term with
  | plain => trivial
  | atom value => exact derived
  | pair left right first second => exact ⟨first derived.left, second derived.right⟩
  | hash body => trivial
  | locked key body inside =>
    intro held
    exact inside (derived.unlock held)
  | boxed publicKey body inside =>
    intro secretKey matching held
    exact inside (derived.unbox held matching)

variable {computes opens known}

/-- Messages that each give nothing new give nothing new together. -/
theorem Derives.shielded {observed : Set (Term α)}
    (shields : ∀ term ∈ observed, Shielded computes opens known term) {term : Term α}
    (derived : Derives computes opens (known ∪ observed) term) :
    Shielded computes opens known term := by
  induction derived with
  | given member =>
    rcases member with old | new
    · exact shielded_of_derives computes opens known (.given old)
    · exact shields _ new
  | plain => trivial
  | compute _ computed source => exact Derives.compute source computed
  | pair _ _ first second => exact ⟨first, second⟩
  | left _ both => exact both.1
  | right _ both => exact both.2
  | hash => trivial
  | lock _ _ _ inside => exact fun _ => inside
  | unlock _ _ message held => exact message held
  | box _ _ _ inside => exact fun _ _ _ => inside
  | unbox _ _ matching message held => exact message _ matching held

end Symbolic
