import RustDcp.Decimal
import RustDcp.Error

namespace RustDcp
set_option autoImplicit true

def maxScramIterations : Nat := 10000000

inductive ScramAlgorithm where
  | sha1
  | sha256
  | sha512
  deriving DecidableEq, Repr

/-- What authentication computes with: Base64 with the texts of its errors, and the proof and server
signature of an exchange. -/
structure ScramCrypto where
  encode : Bytes → String
  encodeNoPad : Bytes → String
  decode : String → Except String Bytes
  calculateScram : ScramAlgorithm → Bytes → Bytes → Nat → Bytes → Result (Bytes × Bytes)

def asBytes (text : String) : Bytes := text.toUTF8.data.toList

theorem asBytes_injective (h : asBytes text = asBytes text') : text = text' := by
  apply String.toByteArray_inj.1
  apply ByteArray.ext
  exact Array.toList_inj.1 h

structure ScramClient where
  algorithm : ScramAlgorithm
  password : String
  clientNonce : String
  clientFirstBare : String
  expectedServerSignature : Option Bytes
  deriving DecidableEq

def collectScramAttributes (attributes : List (Char × String)) :
    List (List Char) → Result (List (Char × String))
  | [] => .ok attributes
  | item :: rest =>
    match item with
    | key :: '=' :: first :: value =>
      if !key.isAlpha then
        .error (.authentication s!"invalid SCRAM attribute {debugStr (String.ofList item)}")
      else if (attributes.lookup key).isSome then
        .error (.authentication s!"duplicate SCRAM attribute {key}")
      else collectScramAttributes ((key, String.ofList (first :: value)) :: attributes) rest
    | _ => .error (.authentication s!"invalid SCRAM attribute {debugStr (String.ofList item)}")

def parseScramAttributes (message : String) : Result (List (Char × String)) :=
  collectScramAttributes [] (message.toList.splitOn ',')

structure ServerFirst where
  message : String
  nonce : String
  salt : Bytes
  iterations : Nat
  deriving DecidableEq

def ServerFirst.clientFinalWithoutProof (self : ServerFirst) : String := s!"c=biws,r={self.nonce}"

def ServerFirst.authMessage (self : ServerFirst) (clientFirstBare : String) : Bytes :=
  asBytes s!"{clientFirstBare},{self.message},{self.clientFinalWithoutProof}"

section

variable (crypto : ScramCrypto)

def scramText (kind : String) (message : Bytes) : Result String :=
  match String.fromUTF8? ⟨message.toArray⟩ with
  | none => .error (.authentication s!"SCRAM {kind} is not UTF-8: {utf8Error message}")
  | some text => .ok text

def required (attributes : List (Char × String)) (key : Char) (missing : String) : Result String :=
  match attributes.lookup key with
  | none => .error (.authentication missing)
  | some value => .ok value

/-- The checks of `handle_server_first` on its message. -/
def readServerFirst (clientNonce : String) (message : Bytes) : Result ServerFirst := do
  let message ← scramText "server-first" message
  let attributes ← parseScramAttributes message
  if (attributes.lookup 'm').isSome then
    throw (.authentication "SCRAM mandatory extension is not supported")
  let nonce ← required attributes 'r' "SCRAM server-first is missing nonce"
  if !clientNonce.toList.isPrefixOf nonce.toList || nonce.length == clientNonce.length then
    throw (.authentication "SCRAM server nonce does not extend client nonce")
  let salt ← required attributes 's' "SCRAM server-first is missing salt"
  let salt ← (crypto.decode salt).mapError fun error =>
    .authentication s!"SCRAM salt is invalid base64: {error}"
  let iterations ← required attributes 'i' "SCRAM server-first is missing iteration count"
  let iterations ← (Decimal.parse u32Max iterations.toList).mapError fun error =>
    .authentication s!"SCRAM iteration count is invalid: {error.toString}"
  if iterations == 0 || iterations > maxScramIterations then
    throw (.authentication
      s!"SCRAM iteration count {iterations} is outside 1..={maxScramIterations}")
  return { message, nonce, salt, iterations }

/-- The checks of `verify_server_final` on its message, and the signature in it. -/
def readServerFinal (message : Bytes) : Result Bytes := do
  let message ← scramText "server-final" message
  let attributes ← parseScramAttributes message
  if let some serverError := attributes.lookup 'e' then
    throw (.authentication s!"SCRAM server rejected authentication: {serverError}")
  let signature ← required attributes 'v' "SCRAM server-final is missing verifier"
  (crypto.decode signature).mapError fun error =>
    .authentication s!"SCRAM verifier is invalid base64: {error}"

def replaceChar (c : Char) (replacement text : List Char) : List Char :=
  text.flatMap fun d => if d = c then replacement else [d]

def escapeUsername (username : List Char) : List Char :=
  replaceChar ',' ['=', '2', 'C'] (replaceChar '=' ['=', '3', 'D'] username)

namespace ScramClient

def withNonce (algorithm : ScramAlgorithm) (username password nonce : String) : ScramClient :=
  let username := String.ofList (escapeUsername username.toList)
  { algorithm
    password
    clientNonce := nonce
    clientFirstBare := s!"n={username},r={nonce}"
    expectedServerSignature := none }

/-- `nonce` is what the random number generator answers. -/
def new (algorithm : ScramAlgorithm) (username password : String) (nonce : Except String Bytes) :
    Result ScramClient :=
  match nonce with
  | .error error => .error (.authentication s!"cannot create SCRAM nonce: {error}")
  | .ok nonce => .ok (withNonce algorithm username password (crypto.encodeNoPad nonce))

def start (self : ScramClient) : Bytes := asBytes s!"n,,{self.clientFirstBare}"

/-- Erases the password and keeps the signature that the server has to show. -/
def handleServerFirst (self : ScramClient) (message : Bytes) : Result Bytes × ScramClient :=
  if self.expectedServerSignature.isSome then
    (.error (.authentication "SCRAM server-first message was processed twice"), self)
  else match readServerFirst crypto self.clientNonce message with
    | .error error => (.error error, self)
    | .ok first =>
      match crypto.calculateScram self.algorithm (asBytes self.password) first.salt
          first.iterations (first.authMessage self.clientFirstBare) with
      | .error error => (.error error, self)
      | .ok (proof, serverSignature) =>
        (.ok (asBytes s!"{first.clientFinalWithoutProof},p={crypto.encode proof}"),
          { self with password := "", expectedServerSignature := some serverSignature })

def verifyServerFinal (self : ScramClient) (message : Bytes) : Outcome ScramClient :=
  match readServerFinal crypto message with
  | .error error => (.error error, self)
  | .ok signature =>
    match self.expectedServerSignature with
    | none =>
      (.error (.authentication "SCRAM server-final arrived before client-final"), self)
    | some expected =>
      if signature ≠ expected then
        (.error (.authentication "SCRAM server signature mismatch"),
          { self with expectedServerSignature := none })
      else (.ok (), { self with expectedServerSignature := none })

end ScramClient

end

end RustDcp
