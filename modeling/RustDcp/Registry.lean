import RustDcp.Assignment
import Mathlib.Data.List.Sort

namespace RustDcp.Membership
set_option autoImplicit true

inductive CouchbaseMembershipError where
  | configuration (message : String)
  | duplicateMember (memberId : String)
  | fenced (memberId : String)
  | registry (message : String)
  | dcp (error : DcpError)
  | timeout (duration : Nat)
  | store (message : String)
  deriving DecidableEq

abbrev MResult := Except CouchbaseMembershipError

/-- Stable logical member ID plus a unique process incarnation. -/
structure MemberIdentity where
  memberId : String
  incarnation : String
  deriving DecidableEq

structure RegistryMember where
  memberId : String
  incarnation : String
  joinedAtMillis : Nat
  heartbeatAtMillis : Nat
  deriving DecidableEq

structure RegistryDocument where
  schemaVersion : Nat
  vbucketCount : Nat
  staleAfterMillis : Nat
  generation : Nat
  members : BTreeMap String RegistryMember
  deriving DecidableEq

/-- One membership view and the assignment derived from it. `MemberInfo` has the fields of a
registry member. -/
structure MembershipSnapshot where
  assignment : VBucketAssignment
  members : List RegistryMember
  deriving DecidableEq

def registrySchemaVersion : Nat := 1

def maxIdLen : Nat := 251

def validateVbucketCount (vbucketCount : Nat) : Except String Unit :=
  if vbucketCount = 0 ∨ vbucketCount > 65536 then .error "vBucket count must be in 1..=65536"
  else .ok ()

/-- `char::is_ascii_graphic`; an identifier is then one byte a character. -/
def isAsciiGraphic (c : Char) : Bool := 0x21 ≤ c.toNat && c.toNat ≤ 0x7e

def validateIdentifier (kind value : String) : Except String Unit :=
  if value.isEmpty || value.utf8ByteSize > maxIdLen || !value.toList.all isAsciiGraphic then
    .error s!"{kind} must contain 1..={maxIdLen} visible ASCII bytes"
  else .ok ()

def asConfigurationError (result : Except String Unit) : MResult Unit :=
  match result with
  | .ok () => .ok ()
  | .error message => .error (.configuration message)

def MemberIdentity.new (memberId incarnation : String) : MResult MemberIdentity := do
  asConfigurationError (validateIdentifier "member ID" memberId)
  asConfigurationError (validateIdentifier "incarnation" incarnation)
  return { memberId, incarnation }

def reject (condition : Prop) [Decidable condition] (error : CouchbaseMembershipError) :
    MResult Unit :=
  if condition then .error error else .ok ()

/-- An error of configuration, as `to_string` shows it inside a registry error. -/
def asRegistryError (result : Except String Unit) : MResult Unit :=
  match result with
  | .ok () => .ok ()
  | .error message =>
    .error (.registry s!"invalid Couchbase membership configuration: {message}")

/-- The checks that `validate` makes of one entry. -/
def validateMember (key : String) (member : RegistryMember) : MResult Unit := do
  asRegistryError (validateIdentifier "member ID" key)
  asRegistryError (validateIdentifier "incarnation" member.incarnation)
  reject (key ≠ member.memberId)
    (.registry s!"member map key {debugStr key} does not match payload {debugStr member.memberId}")
  reject (member.heartbeatAtMillis < member.joinedAtMillis)
    (.registry s!"member {debugStr key} heartbeat precedes its join time")

def validateMembers : List (String × RegistryMember) → MResult Unit
  | [] => .ok ()
  | (key, member) :: rest => do
    validateMember key member
    validateMembers rest

def isStale (member : RegistryMember) (nowMillis staleAfterMillis : Nat) : Bool :=
  nowMillis - member.heartbeatAtMillis ≥ staleAfterMillis

namespace RegistryDocument

def new (vbucketCount staleAfterMillis : Nat) : MResult RegistryDocument :=
  match validateVbucketCount vbucketCount with
  | .error message => .error (.configuration message)
  | .ok () =>
    if staleAfterMillis = 0 then
      .error (.configuration "stale-member timeout must be greater than zero")
    else .ok {
      schemaVersion := registrySchemaVersion
      vbucketCount
      staleAfterMillis
      generation := 0
      members := ∅ }

def validate (self : RegistryDocument) : MResult Unit := do
  reject (self.schemaVersion ≠ registrySchemaVersion)
    (.registry s!"unsupported schema version {self.schemaVersion}")
  asRegistryError (validateVbucketCount self.vbucketCount)
  reject (self.staleAfterMillis = 0) (.registry "stale-member timeout must be greater than zero")
  reject (self.members.size > self.vbucketCount)
    (.registry s!"{self.members.size} members exceed {self.vbucketCount} vBuckets")
  validateMembers self.members.toList

def validateSettings (self : RegistryDocument) (vbucketCount staleAfterMillis : Nat) :
    MResult Unit := do
  self.validate
  reject (self.vbucketCount ≠ vbucketCount) (.configuration
    s!"registry vBucket count {self.vbucketCount} does not match local {vbucketCount}")
  reject (self.staleAfterMillis ≠ staleAfterMillis) (.configuration
    s!"registry stale timeout {self.staleAfterMillis}ms does not match local {staleAfterMillis}ms")

def nextGeneration (self : RegistryDocument) : MResult Nat :=
  match checkedSucc self.generation with
  | some next => .ok next
  | none => .error (.registry "membership generation overflow")

/-- `existing.heartbeat_at_millis = max(..)` on the entry of a member. -/
def refresh (self : RegistryDocument) (existing : RegistryMember) (key : String)
    (nowMillis : Nat) : RegistryDocument :=
  { self with
    members := self.members.insert key
      { existing with heartbeatAtMillis := max existing.heartbeatAtMillis nowMillis } }

/-- The part of `register` that adds an incarnation. -/
def join (self : RegistryDocument) (identity : MemberIdentity) (nowMillis : Nat) :
    MResult RegistryDocument := do
  let next ← self.nextGeneration
  return { self with
    generation := next
    members := self.members.insert identity.memberId
      { memberId := identity.memberId
        incarnation := identity.incarnation
        joinedAtMillis := nowMillis
        heartbeatAtMillis := nowMillis } }

def register (self : RegistryDocument) (identity : MemberIdentity) (nowMillis : Nat) :
    MResult RegistryDocument := do
  self.validate
  match self.members[identity.memberId]? with
  | some existing =>
    if existing.incarnation = identity.incarnation then
      return self.refresh existing identity.memberId nowMillis
    else if !isStale existing nowMillis self.staleAfterMillis then
      throw (.duplicateMember identity.memberId)
    else self.join identity nowMillis
  | none =>
    if self.members.size ≥ self.vbucketCount then
      throw (.configuration
        s!"cannot register more than {self.vbucketCount} members for {self.vbucketCount} vBuckets")
    else self.join identity nowMillis

def heartbeat (self : RegistryDocument) (identity : MemberIdentity) (nowMillis : Nat) :
    MResult RegistryDocument := do
  self.validate
  match self.members[identity.memberId]? with
  | none => throw (.fenced identity.memberId)
  | some member =>
    if member.incarnation ≠ identity.incarnation then throw (.fenced identity.memberId)
    else return self.refresh member identity.memberId nowMillis

/-- The count of removed members that it also returns is not used by its callers. -/
def pruneStale (self : RegistryDocument) (nowMillis : Nat) : MResult RegistryDocument := do
  self.validate
  let removed := (self.members.toList.filter fun pair =>
    isStale pair.2 nowMillis self.staleAfterMillis).length
  if removed = 0 then return self
  else
    let next ← self.nextGeneration
    return { self with
      generation := next
      members := self.members.filter fun _ member =>
        !isStale member nowMillis self.staleAfterMillis }

def remove (self : RegistryDocument) (identity : MemberIdentity) : MResult RegistryDocument := do
  self.validate
  match self.members[identity.memberId]? with
  | none => return self
  | some member =>
    if member.incarnation ≠ identity.incarnation then throw (.fenced identity.memberId)
    else
      let next ← self.nextGeneration
      return { self with generation := next, members := self.members.erase identity.memberId }

/-- The order of `sort_by`: by join time, then by member ID. -/
def Before (left right : RegistryMember) : Prop :=
  left.joinedAtMillis < right.joinedAtMillis ∨
    left.joinedAtMillis = right.joinedAtMillis ∧ left.memberId ≤ right.memberId

instance (left right : RegistryMember) : Decidable (Before left right) :=
  inferInstanceAs (Decidable (_ ∨ _ ∧ _))

def ordered (self : RegistryDocument) : List RegistryMember :=
  (self.members.toList.map (·.2)).insertionSort Before

def snapshot (self : RegistryDocument) (identity : MemberIdentity) :
    MResult MembershipSnapshot := do
  self.validate
  match self.members[identity.memberId]? with
  | none => throw (.fenced identity.memberId)
  | some own =>
    if own.incarnation ≠ identity.incarnation then throw (.fenced identity.memberId)
    else match self.ordered.findIdx? fun member => member.memberId = identity.memberId with
    | none => throw (.fenced identity.memberId)
    | some index =>
      match VBucketAssignment.balanced self.generation self.vbucketCount (index + 1)
          self.ordered.length with
      | .error error => throw (.registry error.toString)
      | .ok assignment => return { assignment, members := self.ordered }

end RegistryDocument

end RustDcp.Membership
