import RustDcp.Collections

namespace RustDcp
set_option autoImplicit true

/-- The TTL and the history flag of a collection are only shown to the application. -/
structure ManifestCollection where
  uid : UInt32
  name : String
  deriving DecidableEq

structure ManifestScope where
  uid : UInt32
  name : String
  collections : List ManifestCollection
  deriving DecidableEq

structure CollectionManifest where
  uid : Nat
  scopes : List ManifestScope
  deriving DecidableEq

/-- The configured scope and the collections of it; none stands for all. -/
structure CollectionFilter where
  scope : String
  collections : List String
  deriving DecidableEq

def validateCollectionName (kind name : String) : Result Unit :=
  if name.isEmpty || name.utf8ByteSize > 251 then
    .error (.invalidConfiguration
      s!"{kind} name must contain between 1 and 251 ASCII characters")
  else if !name.toUTF8.toList.all isCollectionNameByte then
    .error (.invalidConfiguration
      s!"{kind} name contains a character unsupported by Couchbase collections")
  else .ok ()

def validateCollectionNames : List String → Result Unit
  | [] => .ok ()
  | collection :: collections => do
    validateCollectionName "collection" collection
    validateCollectionNames collections

def CollectionFilter.validate (self : CollectionFilter) : Result Unit := do
  validateCollectionName "scope" self.scope
  validateCollectionNames self.collections
  if self.collections.dedup.length ≠ self.collections.length then
    throw (.invalidConfiguration "collection names must be unique")

def manifestError (message : String) : DcpError :=
  .protocol (.malformedFrame s!"invalid collection manifest: {message}")

/-- The inner loop of `validate_identity`, with the collection UIDs seen in any scope and the names
seen in this one. -/
def validateCollections (scopeName : String) :
    List UInt32 → List String → List ManifestCollection → Result (List UInt32)
  | collectionIds, _, [] => .ok collectionIds
  | collectionIds, collectionNames, collection :: collections =>
    if collection.uid ∈ collectionIds then
      .error (manifestError s!"duplicate collection UID 0x{hex 1 collection.uid.toNat}")
    else if collection.name ∈ collectionNames then
      .error (manifestError
        s!"duplicate collection name {debugStr collection.name} in scope {debugStr scopeName}")
    else validateCollections scopeName (collection.uid :: collectionIds)
      (collection.name :: collectionNames) collections

def validateScopes : List UInt32 → List String → List UInt32 → List ManifestScope → Result Unit
  | _, _, _, [] => .ok ()
  | scopeIds, scopeNames, collectionIds, scope :: scopes =>
    if scope.uid ∈ scopeIds then
      .error (manifestError s!"duplicate scope UID 0x{hex 1 scope.uid.toNat}")
    else if scope.name ∈ scopeNames then
      .error (manifestError s!"duplicate scope name {debugStr scope.name}")
    else do
      let collectionIds ← validateCollections scope.name collectionIds [] scope.collections
      validateScopes (scope.uid :: scopeIds) (scope.name :: scopeNames) collectionIds scopes

namespace CollectionManifest

def validateIdentity (self : CollectionManifest) : Result Unit :=
  validateScopes [] [] [] self.scopes

/-- The loop of `resolve` over the configured names, with the IDs and names found so far. -/
def resolveNames (self : CollectionManifest) (scopeName : String) (scope : ManifestScope) :
    List UInt32 → BTreeMap UInt32 String → List String →
      Result (List UInt32 × BTreeMap UInt32 String)
  | collectionIds, collectionNames, [] => .ok (collectionIds, collectionNames)
  | collectionIds, collectionNames, name :: names =>
    match scope.collections.find? fun collection => collection.name = name with
    | none => .error (.invalidConfiguration
        (s!"collection {debugStr scopeName}.{debugStr name} is not present in manifest " ++
         s!"0x{hex 1 self.uid}"))
    | some collection =>
      self.resolveNames scopeName scope (collectionIds ++ [collection.uid])
        (collectionNames.insert collection.uid collection.name) names

def allNames (scope : ManifestScope) : BTreeMap UInt32 String :=
  scope.collections.foldl (fun names collection => names.insert collection.uid collection.name) ∅

def resolve (self : CollectionManifest) (configured : CollectionFilter)
    (streamId : Option UInt16) : Result ResolvedCollectionFilter := do
  configured.validate
  match self.scopes.find? fun scope => scope.name = configured.scope with
  | none => throw (.invalidConfiguration
      (s!"scope {debugStr configured.scope} is not present in collection manifest " ++
       s!"0x{hex 1 self.uid}"))
  | some scope =>
    let (collectionIds, collectionNames) ←
      if configured.collections.isEmpty then pure ([], allNames scope)
      else self.resolveNames configured.scope scope [] ∅ configured.collections
    return {
      manifestUid := self.uid
      scopeId := scope.uid
      collectionIds
      collectionNames
      streamFilter := {
        scopeId := if configured.collections.isEmpty then some scope.uid else none
        collectionIds
        manifestUid := none
        streamId } }

end CollectionManifest

/-- No two collections have one name. -/
def InjectiveNames (names : BTreeMap UInt32 String) : Prop :=
  ∀ (a b : UInt32) name, names[a]? = some name → names[b]? = some name → a = b

theorem InjectiveNames.empty : InjectiveNames ∅ := by
  intro a b name h
  simp at h

theorem InjectiveNames.insert (h : InjectiveNames names) (collectionId : UInt32) (name : String)
    (hfresh : ∀ other : UInt32, other ≠ collectionId → names[other]? ≠ some name) :
    InjectiveNames (names.insert collectionId name) := by
  intro a b shared ha hb
  simp only [Std.ExtTreeMap.getElem?_insert, Std.compare_eq_iff_eq] at ha hb
  split at ha
  · rename_i hown
    cases ha
    split at hb
    · rename_i hown'
      exact hown.symm.trans hown'
    · rename_i hne
      exact absurd hb (hfresh b (Ne.symm hne))
  · rename_i hne
    split at hb
    · cases hb
      exact absurd ha (hfresh a (Ne.symm hne))
    · exact h a b shared ha hb

theorem InjectiveNames.erase (h : InjectiveNames names) (collectionId : UInt32) :
    InjectiveNames (names.erase collectionId) := by
  intro a b shared ha hb
  simp only [Std.ExtTreeMap.getElem?_erase] at ha hb
  split at ha
  · cases ha
  split at hb
  · cases hb
  · exact h a b shared ha hb

theorem InjectiveNames.foldl {collections : List ManifestCollection} (h : InjectiveNames names)
    (hdistinct : (collections.map (·.name)).Nodup)
    (hfresh : ∀ collection ∈ collections, ∀ other : UInt32, names[other]? ≠ some collection.name) :
    InjectiveNames (collections.foldl
      (fun names collection => names.insert collection.uid collection.name) names) := by
  induction collections generalizing names with
  | nil => exact h
  | cons collection collections ih =>
    rw [List.map_cons, List.nodup_cons] at hdistinct
    obtain ⟨hfirst, hrest⟩ := List.forall_mem_cons.1 hfresh
    rw [List.foldl_cons]
    refine ih (h.insert _ _ fun other _ => hfirst other) hdistinct.2 ?_
    intro later hlater other
    rw [Std.ExtTreeMap.getElem?_insert]
    split
    · intro heq
      apply hdistinct.1
      rw [Option.some_inj] at heq
      rw [heq]
      exact List.mem_map_of_mem hlater
    · exact hrest later hlater other

theorem validateCollections_nodup {collectionNames : List String}
    (h : validateCollections scopeName collectionIds collectionNames collections = .ok seen) :
    (collections.map (·.name)).Nodup ∧
      ∀ collection ∈ collections, collection.name ∉ collectionNames := by
  induction collections generalizing collectionIds collectionNames with
  | nil => simp
  | cons collection collections ih =>
    rw [validateCollections] at h
    split at h
    · cases h
    split at h
    · cases h
    rename_i hname
    obtain ⟨hdistinct, hfresh⟩ := ih h
    rw [List.map_cons, List.nodup_cons, List.forall_mem_cons]
    refine ⟨⟨?_, hdistinct⟩, hname, ?_⟩
    · intro hmem
      obtain ⟨later, hlater, heq⟩ := List.mem_map.1 hmem
      exact hfresh later hlater (heq ▸ List.mem_cons_self)
    · intro later hlater hmem
      exact hfresh later hlater (List.mem_cons_of_mem _ hmem)

theorem validateScopes_nodup (h : validateScopes scopeIds scopeNames collectionIds scopes = .ok ())
    (hscope : scope ∈ scopes) : (scope.collections.map (·.name)).Nodup := by
  induction scopes generalizing scopeIds scopeNames collectionIds with
  | nil => cases hscope
  | cons first scopes ih =>
    rw [validateScopes] at h
    split at h
    · cases h
    split at h
    · cases h
    obtain ⟨seen, hfirst, hrest⟩ := bind_eq_ok.1 h
    rcases List.mem_cons.1 hscope with rfl | hscope
    · exact (validateCollections_nodup hfirst).1
    · exact ih hrest hscope

theorem CollectionFilter.validate_nodup {configured : CollectionFilter}
    (h : configured.validate = .ok ()) : configured.collections.Nodup := by
  obtain ⟨-, -, h⟩ := bind_eq_ok.1 h
  obtain ⟨-, -, h⟩ := bind_eq_ok.1 h
  split at h
  · cases h
  · rename_i hlength
    have hsame := (List.dedup_sublist configured.collections).eq_of_length (not_not.1 hlength)
    rw [← hsame]
    exact List.nodup_dedup _

theorem CollectionManifest.resolveNames_injective {self : CollectionManifest}
    (h : self.resolveNames scopeName scope collectionIds collectionNames names = .ok (ids, found))
    (hinjective : InjectiveNames collectionNames) (hdistinct : names.Nodup)
    (hfresh : ∀ name ∈ names, ∀ other : UInt32, collectionNames[other]? ≠ some name) :
    InjectiveNames found := by
  induction names generalizing collectionIds collectionNames with
  | nil =>
    cases h
    exact hinjective
  | cons name names ih =>
    rw [List.nodup_cons] at hdistinct
    obtain ⟨hfirst, hrest⟩ := List.forall_mem_cons.1 hfresh
    rw [resolveNames] at h
    split at h
    · cases h
    rename_i collection hfind
    obtain rfl : collection.name = name := by simpa using List.find?_some hfind
    refine ih h (hinjective.insert _ _ fun other _ => hfirst other) hdistinct.2 ?_
    intro later hlater other
    rw [Std.ExtTreeMap.getElem?_insert]
    split
    · intro heq
      rw [Option.some_inj] at heq
      exact hdistinct.1 (heq ▸ hlater)
    · exact hrest later hlater other

theorem CollectionManifest.resolve_injective {self : CollectionManifest}
    (hvalid : self.validateIdentity = .ok ())
    (h : self.resolve configured streamId = .ok resolved) :
    InjectiveNames resolved.collectionNames := by
  obtain ⟨⟨⟩, hconfigured, h⟩ := bind_eq_ok.1 h
  split at h
  · cases h
  rename_i scope hscope
  dsimp only at h
  split at h
  · cases h
    refine InjectiveNames.empty.foldl (validateScopes_nodup hvalid
      (List.mem_of_find?_eq_some hscope))
      ?_
    intro collection _ other
    simp
  · obtain ⟨⟨ids, names⟩, hnames, h⟩ := bind_eq_ok.1 h
    cases h
    refine resolveNames_injective hnames .empty (CollectionFilter.validate_nodup hconfigured) ?_
    intro name _ other
    simp

end RustDcp
