import Sesivo.Server.State

set_option autoImplicit false

/- The server's command line, `server_options.h` and `udp_port.h`. Options that no
modelled function reads (port, log files, metrics, crash reports) are checked and dropped. -/

namespace Sesivo

open Octets JoinToken

def maxServerIdBytes : Nat := 63
def maxJoinSecretFileBytes : Nat := 4096

/-- What the command line is read with: the files it names, where `none` stands for a file
that does not open and an inner `none` for one that cannot be read, and the secret
drawn if none is configured, unless the random generator is not available. -/
structure OptionsAmbient where
  file : Octets → Option (Option Octets)
  ephemeralSecret : Option Octets

structure ParsedOptions where
  serverId : Octets := ascii "local-dev"
  joinSecret : Octets := []
  joinSecretConfigured : Bool := false

/-- `std::stoul` or `std::stoull` on a text that it reads to its end. -/
def stoulWhole (text : Octets) : Option Nat :=
  let unsigned :=
    match text.dropWhile isSpace with
    | [] => []
    | char :: rest => if char = ofChar '-' ∨ char = ofChar '+' then rest else char :: rest
  if unsigned.dropWhile isDigit = [] then stoul text else none

def parseUdpPort (value optionName : Octets) : Except Octets Nat :=
  match stoulWhole value with
  | none => .error (optionName ++ ascii " must be a UDP port in 0..65535")
  | some port =>
    if 65535 < port then .error (optionName ++ ascii " must be a UDP port in 0..65535")
    else .ok port

def parsePositiveSizeArg (value optionName : Octets) : Except Octets Nat :=
  match stoulWhole value with
  | none => .error (ascii "Invalid " ++ optionName ++ ascii ": " ++ value)
  | some parsed =>
    if parsed = 0 then .error (ascii "Invalid " ++ optionName ++ ascii ": " ++ value)
    else .ok parsed

/-- A final line feed goes, and a carriage return before it. -/
def dropLineEnd (secret : Octets) : Octets :=
  if secret.getLast? = some 10 then
    let shorter := secret.dropLast
    if shorter.getLast? = some 13 then shorter.dropLast else shorter
  else secret

variable (ambient : OptionsAmbient)

def readJoinSecretFile (path : Octets) : Except Octets Octets :=
  match ambient.file path with
  | none => .error (ascii "Could not open --join-secret-file")
  | some none => .error (ascii "Could not read --join-secret-file or file is too large")
  | some (some content) =>
    if maxJoinSecretFileBytes < content.length then
      .error (ascii "Could not read --join-secret-file or file is too large")
    else
      let secret := dropLineEnd content
      if secret = [] ∨ 0 ∈ secret then
        .error (ascii "--join-secret-file must contain a non-empty text secret")
      else .ok secret

/-- The option that takes the value, or `none` for an unknown one. -/
def applyServerOption (options : ParsedOptions) (arg value : Octets) :
    Option (Except Octets ParsedOptions) :=
  if arg = ascii "--port" then some ((parseUdpPort value arg).map fun _ => options)
  else if arg = ascii "--server-id" then some (.ok { options with serverId := value })
  else if arg = ascii "--join-secret" then
    if value = [] then some (.error (ascii "--join-secret must not be empty"))
    else some (.ok { options with joinSecret := value, joinSecretConfigured := true })
  else if arg = ascii "--join-secret-file" then
    some ((readJoinSecretFile ambient value).map fun secret =>
      { options with joinSecret := secret, joinSecretConfigured := true })
  else if arg = ascii "--log-max-bytes" ∨ arg = ascii "--log-max-files" then
    some ((parsePositiveSizeArg value arg).map fun _ => options)
  else if arg = ascii "--log-file" ∨ arg = ascii "--metrics-jsonl" ∨
      arg = ascii "--crash-report-dir" then
    some (.ok options)
  else none

/-- The loop over the arguments. An option's value is its next argument; a second secret is
refused before its value is looked at. -/
def parseArguments (ambient : OptionsAmbient) :
    ParsedOptions → List Octets → Except Octets ParsedOptions
  | options, [] => .ok options
  | options, arg :: rest =>
    if arg = ascii "--disable-crash-reports" then parseArguments ambient options rest
    else if (arg = ascii "--join-secret" ∨ arg = ascii "--join-secret-file") ∧
        options.joinSecretConfigured = true then
      .error (ascii "Configure exactly one of --join-secret or --join-secret-file")
    else
      match rest with
      | [] =>
        match applyServerOption ambient options arg [] with
        | none => .error (ascii "Unknown server option: " ++ arg)
        | some _ => .error (arg ++ ascii " requires a value")
      | value :: rest =>
        match applyServerOption ambient options arg value with
        | none => .error (ascii "Unknown server option: " ++ arg)
        | some (.error reason) => .error reason
        | some (.ok next) => parseArguments ambient next rest

def parseServerOptions (arguments : List Octets) :
    Except Octets ServerOptions :=
  match parseArguments ambient {} arguments with
  | .error reason => .error reason
  | .ok options =>
    let secret :=
      if options.joinSecretConfigured then some options.joinSecret else ambient.ephemeralSecret
    match secret with
    | none => .error (ascii "crypto unavailable")
    | some joinSecret =>
      if options.serverId = [] ∨ maxServerIdBytes < options.serverId.length then
        .error (ascii "--server-id must contain between 1 and 63 bytes")
      else
        .ok { joinSecret := joinSecret, serverId := options.serverId }

theorem parseServerOptions_serverId {ambient : OptionsAmbient} {arguments : List Octets}
    {options : ServerOptions} (parsed : parseServerOptions ambient arguments = .ok options) :
    options.serverId ≠ [] ∧ options.serverId.length ≤ maxServerIdBytes := by
  simp only [parseServerOptions] at parsed
  split at parsed
  · cases parsed
  split at parsed
  · cases parsed
  split at parsed
  · cases parsed
  rename_i checked
  obtain rfl := Except.ok.inj parsed
  rw [not_or, not_lt] at checked
  exact checked

end Sesivo
