import RustDcp.Machine

namespace RustDcp
set_option autoImplicit true

abbrev Bytes := List UInt8

/-- The ordered map of the source: keys in order, one value a key. -/
abbrev BTreeMap (κ ν : Type) [Ord κ] := Std.ExtTreeMap κ ν compare

def u32Max : Nat := 2 ^ 32 - 1

def u64Max : Nat := 2 ^ 64 - 1

def usizeMax : Nat := 2 ^ 64 - 1

def checkedAdd (a b : Nat) : Option Nat := if a + b ≤ usizeMax then some (a + b) else none

def checkedSucc (n : Nat) : Option Nat := if n < u64Max then some (n + 1) else none

theorem checkedSucc_eq_some : checkedSucc n = some m ↔ n < u64Max ∧ m = n + 1 := by
  simp only [checkedSucc]
  split <;> simp_all [eq_comm]

theorem checkedSucc_eq_none : checkedSucc n = none ↔ u64Max ≤ n := by
  simp only [checkedSucc]
  split <;> simp_all

/-- Lower-case hexadecimal, padded with zeros to `width` digits. -/
def hex (width n : Nat) : String :=
  let digits := Nat.toDigits 16 n
  String.ofList (List.replicate (width - digits.length) '0' ++ digits)

/-- A character as `{:?}` prints it in a text; those outside ASCII are taken to be printable. -/
def debugChar (c : Char) : List Char :=
  if c = '"' ∨ c = '\\' then ['\\', c]
  else if c = '\n' then ['\\', 'n']
  else if c = '\r' then ['\\', 'r']
  else if c = '\t' then ['\\', 't']
  else if c.toNat = 0 then ['\\', '0']
  else if c.toNat < 0x20 ∨ c.toNat = 0x7f then
    ['\\', 'u', '{'] ++ Nat.toDigits 16 c.toNat ++ ['}']
  else [c]

def debugStr (text : String) : String :=
  String.ofList ('"' :: text.toList.flatMap debugChar ++ ['"'])

/-- The length of the UTF-8 sequence that begins with the byte; with some bytes none begins. -/
def utf8Width (first : UInt8) : Nat :=
  if first < 0x80 then 1
  else if 0xc2 ≤ first ∧ first ≤ 0xdf then 2
  else if 0xe0 ≤ first ∧ first ≤ 0xef then 3
  else if 0xf0 ≤ first ∧ first ≤ 0xf4 then 4
  else 0

def utf8Continues (first : UInt8) (position : Nat) (byte : UInt8) : Bool :=
  let low := if position ≠ 1 then 0x80 else if first = 0xe0 then 0xa0
    else if first = 0xf0 then 0x90 else 0x80
  let high := if position ≠ 1 then 0xbf else if first = 0xed then 0x9f
    else if first = 0xf4 then 0x8f else 0xbf
  low ≤ byte && byte ≤ high

def utf8Matched (first : UInt8) (rest : Bytes) : Nat :=
  (((rest.take (utf8Width first - 1)).zipIdx 1).takeWhile fun (byte, position) =>
    utf8Continues first position byte).length + 1

def utf8Char (first : UInt8) (rest : Bytes) : Char :=
  let bits := if rest.isEmpty then 7 else 6 - rest.length
  Char.ofNat (rest.foldl (fun n byte => n * 64 + byte.toNat % 64) (first.toNat % 2 ^ bits))

/-- The text of the `Utf8Error` of bytes that are not UTF-8. -/
def utf8Error (bytes : Bytes) : String := go bytes.length 0 bytes
where
  go : Nat → Nat → Bytes → String
  | fuel + 1, index, first :: rest =>
    let matched := utf8Matched first rest
    if matched = utf8Width first then go fuel (index + matched) (rest.drop (matched - 1))
    else if matched < utf8Width first ∧ rest.length < matched then
      s!"incomplete utf-8 byte sequence from index {index}"
    else s!"invalid utf-8 sequence of {matched} bytes from index {index}"
  | _, _, _ => ""

def utf8Lossy (bytes : Bytes) : String :=
  match String.fromUTF8? ⟨bytes.toArray⟩ with
  | some text => text
  | none => String.ofList (go bytes.length bytes)
where
  go : Nat → Bytes → List Char
  | fuel + 1, first :: rest =>
    let matched := utf8Matched first rest
    let char := if matched = utf8Width first then utf8Char first (rest.take (matched - 1))
      else Char.ofNat 0xfffd
    char :: go fuel (rest.drop (matched - 1))
  | _, _ => []

def debugOption [ToString α] : Option α → String
  | none => "None"
  | some a => s!"Some({a})"

inductive ProtocolError where
  | io (message : String)
  | invalidMagic (magic : UInt8)
  | invalidLength (message : String)
  | malformedFrame (message : String)
  | malformedDcp (message : String)
  | invalidCollectionId (message : String)
  | invalidRequest (message : String)
  | serverStatus (status : UInt16) (opcode : UInt8) (message : String)
  | json (message : String)
  deriving DecidableEq, Repr

def ProtocolError.toString : ProtocolError → String
  | .io message => s!"I/O error: {message}"
  | .invalidMagic magic => s!"unsupported Memcached magic 0x{hex 2 magic.toNat}"
  | .invalidLength message => s!"invalid frame length: {message}"
  | .malformedFrame message => s!"malformed frame: {message}"
  | .malformedDcp message => s!"malformed DCP message: {message}"
  | .invalidCollectionId message => s!"invalid collection ID: {message}"
  | .invalidRequest message => s!"invalid request: {message}"
  | .serverStatus status opcode message =>
    s!"server status 0x{hex 4 status.toNat} for opcode 0x{hex 2 opcode.toNat}: {message}"
  | .json message => s!"stream filter serialization failed: {message}"

/-- One branch of a vBucket failover history; logs list the newest branch first. -/
structure FailoverEntry where
  vbucketUuid : Nat
  seqno : Nat
  deriving DecidableEq, Repr

inductive DcpError where
  | invalidConfiguration (message : String)
  | protocol (error : ProtocolError)
  | io (message : String)
  | tls (message : String)
  | authentication (message : String)
  | serverStatus (status : UInt16) (opcode : UInt8) (message : String)
  | topology (message : String)
  | unsupported (message : String)
  | collection (message : String)
  | checkpoint (message : String)
  | checkpointStore (message : String)
  | rollbackRequired (vbucket : UInt16) (requestedSeqno rollbackSeqno : Nat)
      (failoverLog : List FailoverEntry)
  | rollbackMitigation (vbucket : UInt16) (message : String)
  | staleGeneration (observed current : Nat)
  | timeout (duration : Nat)
  | deadConnection (peer : String) (idleFor : Nat)
  | cancelled
  | stream (vbucket : UInt16) (message : String)
  deriving DecidableEq, Repr

abbrev Result := Except DcpError

theorem Result.map_eq_ok {result : Except ε α} (h : result.map f = .ok b) :
    ∃ a, result = .ok a ∧ f a = b := by
  cases result with
  | error error => cases h
  | ok a => exact ⟨a, rfl, Except.ok.inj h⟩

theorem bind_eq_ok {before : Except ε α} {next : α → Except ε β} :
    (before >>= next) = .ok b ↔ ∃ a, before = .ok a ∧ next a = .ok b := by
  cases before with
  | error error => simp [bind, Except.bind]
  | ok a => simp [bind, Except.bind]

theorem toOption_eq_some {result : Except ε α} : result.toOption = some a ↔ result = .ok a := by
  cases result with
  | error error => simp [Except.toOption]
  | ok b => simp [Except.toOption]

theorem mapError_eq_ok {result : Except ε α} (f : ε → ε') :
    result.mapError f = .ok a ↔ result = .ok a := by
  cases result <;> simp [Except.mapError]

/-- What a fallible operation returns and the state it leaves, also when it fails. -/
abbrev Outcome (σ : Type) := Result Unit × σ

/-- Goes on with `next` unless the operation before it failed. -/
def Outcome.andThen (before : Outcome σ) (next : σ → Outcome σ) : Outcome σ :=
  match before with
  | (.error error, s) => (.error error, s)
  | (.ok (), s) => next s

def DcpError.toString : DcpError → String
  | .invalidConfiguration message => s!"invalid configuration: {message}"
  | .protocol error => error.toString
  | .io message => s!"I/O error: {message}"
  | .tls message => s!"TLS error: {message}"
  | .authentication message => s!"authentication failed: {message}"
  | .serverStatus status opcode message =>
    s!"server returned status 0x{hex 4 status.toNat} for opcode 0x{hex 2 opcode.toNat}: {message}"
  | .topology message => s!"topology error: {message}"
  | .unsupported message => s!"unsupported capability: {message}"
  | .collection message => s!"collection state error: {message}"
  | .checkpoint message => s!"checkpoint error: {message}"
  | .checkpointStore message => s!"checkpoint store error: {message}"
  | .rollbackRequired vbucket requestedSeqno rollbackSeqno _ =>
    s!"vBucket {vbucket} requires rollback from seqno {requestedSeqno} to {rollbackSeqno}"
  | .rollbackMitigation vbucket message =>
    s!"rollback mitigation failed for vBucket {vbucket}: {message}"
  | .staleGeneration observed current =>
    s!"stale assignment generation {observed}; current generation is {current}"
  | .timeout duration => s!"operation timed out after {duration}"
  | .deadConnection peer idleFor => s!"KV peer {peer} was silent for {idleFor}"
  | .cancelled => "operation cancelled"
  | .stream vbucket message => s!"stream error for vBucket {vbucket}: {message}"

end RustDcp
