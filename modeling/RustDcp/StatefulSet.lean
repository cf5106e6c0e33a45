import RustDcp.BalancedSplit
import RustDcp.Decimal
import RustDcp.Kubernetes

namespace RustDcp.Kubernetes
set_option autoImplicit true

/-- Every character that it lets pass is one byte. -/
def isDnsLabel (value : List Char) : Bool :=
  !value.isEmpty && value.length ≤ 63 &&
    value.all (fun c => c.isLower || c.isDigit || c == '-') &&
    value.head?.any (·.isAlphanum) && value.getLast?.any (·.isAlphanum)

def validateDnsName (kind value : String) : KResult Unit :=
  let valid := !value.isEmpty && value.utf8ByteSize ≤ 253 &&
    (value.toList.splitOn '.').all isDnsLabel
  if !valid then
    .error (.configuration s!"{kind} name must be a valid lowercase Kubernetes DNS subdomain")
  else .ok ()

structure StatefulSetMembershipConfig where
  statefulSet : String
  podName : String
  replicas : Nat
  startOrdinal : Nat
  vbucketCount : Nat
  generation : Nat
  deriving DecidableEq

structure StatefulSetMembership where
  assignment : VBucketAssignment
  memberNumber : Nat
  totalMembers : Nat
  deriving DecidableEq

namespace StatefulSetMembershipConfig

def endOrdinal (self : StatefulSetMembershipConfig) : KResult Nat :=
  match checkedAdd self.startOrdinal self.replicas with
  | some endOrdinal => .ok endOrdinal
  | none => .error (.configuration "StatefulSet ordinal range overflows usize")

def validate (self : StatefulSetMembershipConfig) : KResult Unit := do
  validateDnsName "StatefulSet" self.statefulSet
  validateDnsName "pod" self.podName
  let _ ← asConfigurationError
    (VBucketAssignment.balanced self.generation self.vbucketCount 1 self.replicas)
  let _ ← self.endOrdinal
  return ()

def new (statefulSet podName : String) (replicas vbucketCount : Nat) :
    KResult StatefulSetMembershipConfig := do
  let config := { statefulSet, podName, replicas, startOrdinal := 0, vbucketCount, generation := 1 }
  config.validate
  return config

end StatefulSetMembershipConfig

def podOrdinal (statefulSet podName : String) : KResult Nat :=
  match (statefulSet ++ "-").toList.isPrefixOf? podName.toList with
  | none => .error (.configuration
      s!"pod {debugStr podName} does not belong to StatefulSet {debugStr statefulSet}")
  | some suffix =>
    match Decimal.parse usizeMax suffix with
    | .error error => .error (.configuration
        s!"pod {debugStr podName} has an invalid StatefulSet ordinal: {error.toString}")
    | .ok ordinal =>
      if (toString ordinal).toList ≠ suffix then
        .error (.configuration s!"pod {debugStr podName} has a noncanonical StatefulSet ordinal")
      else .ok ordinal

def StatefulSetMembershipConfig.resolve (self : StatefulSetMembershipConfig) :
    KResult StatefulSetMembership := do
  self.validate
  let ordinal ← podOrdinal self.statefulSet self.podName
  let endOrdinal ← self.endOrdinal
  if ordinal < self.startOrdinal ∨ ordinal ≥ endOrdinal then
    throw (.configuration
      s!"pod ordinal {ordinal} is outside StatefulSet range {self.startOrdinal}..{endOrdinal}")
  let memberNumber := ordinal - self.startOrdinal + 1
  let assignment ← asAssignmentError
    (VBucketAssignment.balanced self.generation self.vbucketCount memberNumber self.replicas)
  return { assignment, memberNumber, totalMembers := self.replicas }

def podNameOf (statefulSet : String) (ordinal : Nat) : String :=
  statefulSet ++ "-" ++ toString ordinal

theorem podNameOf_toList (statefulSet : String) (ordinal : Nat) :
    (podNameOf statefulSet ordinal).toList =
      (statefulSet ++ "-").toList ++ (toString ordinal).toList := by
  rw [podNameOf, String.toList_append]

theorem podOrdinal_eq_ok :
    podOrdinal statefulSet podName = .ok ordinal ↔
      podName = podNameOf statefulSet ordinal ∧ ordinal ≤ usizeMax := by
  rw [podOrdinal]
  constructor
  · intro h
    split at h
    · cases h
    rename_i suffix hsuffix
    split at h
    · cases h
    rename_i parsed hparsed
    split at h
    · cases h
    rename_i hcanonical
    cases h
    rw [List.isPrefixOf?_eq_some_iff_append_eq, ← not_not.1 hcanonical,
      ← podNameOf_toList] at hsuffix
    exact ⟨(String.toList_inj.1 hsuffix).symm, Decimal.parse_le hparsed⟩
  · rintro ⟨rfl, hle⟩
    have hsuffix : (statefulSet ++ "-").toList.isPrefixOf? (podNameOf statefulSet ordinal).toList =
        some (toString ordinal).toList := by
      rw [List.isPrefixOf?_eq_some_iff_append_eq, podNameOf_toList]
    simp only [hsuffix, Decimal.parse_toString hle, ne_eq, not_true_eq_false, if_false]

end RustDcp.Kubernetes
