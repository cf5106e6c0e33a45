import RustDcp.Scram

namespace RustDcp
set_option autoImplicit true

def unescapeUsername : List Char → List Char
  | '=' :: '2' :: 'C' :: rest => ',' :: unescapeUsername rest
  | '=' :: '3' :: 'D' :: rest => '=' :: unescapeUsername rest
  | c :: rest => c :: unescapeUsername rest
  | [] => []

theorem escapeUsername_cons (c : Char) (rest : List Char) :
    escapeUsername (c :: rest) =
      (if c = '=' then ['=', '3', 'D'] else if c = ',' then ['=', '2', 'C'] else [c]) ++
        escapeUsername rest := by
  by_cases hequals : c = '='
  · subst hequals
    rfl
  · simp [escapeUsername, replaceChar, hequals]

theorem comma_notMem_escapeUsername (username : List Char) : ',' ∉ escapeUsername username := by
  induction username with
  | nil => simp [escapeUsername, replaceChar]
  | cons c rest ih =>
    rw [escapeUsername_cons, List.mem_append, not_or]
    refine ⟨?_, ih⟩
    split
    · decide
    split
    · decide
    · rename_i hcomma
      simpa using Ne.symm hcomma

theorem unescapeUsername_escape (username : List Char) :
    unescapeUsername (escapeUsername username) = username := by
  induction username with
  | nil => rfl
  | cons c rest ih =>
    rw [escapeUsername_cons]
    split
    · rename_i hequals
      simp [unescapeUsername, ih, hequals]
    split
    · rename_i hcomma
      simp [unescapeUsername, ih, hcomma]
    · rename_i hequals hcomma
      rw [List.singleton_append, unescapeUsername, ih]
      · rintro rest rfl
        exact absurd rfl hequals
      · rintro rest rfl
        exact absurd rfl hequals

namespace ScramClient

theorem clientFirstBare_toList (algorithm : ScramAlgorithm) (username password nonce : String) :
    (withNonce algorithm username password nonce).clientFirstBare.toList =
      [','].intercalate
        ['n' :: '=' :: escapeUsername username.toList, 'r' :: '=' :: nonce.toList] := by
  change ("n=" ++ String.ofList (escapeUsername username.toList) ++ ",r=" ++ nonce).toList = _
  simp [List.intercalate]

theorem clientFirstBare_splitOn (algorithm : ScramAlgorithm) (username password : String)
    (hnonce : ',' ∉ nonce.toList) :
    (withNonce algorithm username password nonce).clientFirstBare.toList.splitOn ',' =
      ['n' :: '=' :: escapeUsername username.toList, 'r' :: '=' :: nonce.toList] := by
  rw [clientFirstBare_toList, List.splitOn_intercalate]
  · intro part hpart
    rcases List.mem_pair.1 hpart with rfl | rfl
    · simpa using comma_notMem_escapeUsername username.toList
    · simpa using hnonce
  · simp

theorem start_injective {algorithm algorithm' : ScramAlgorithm} {password password' : String}
    (hnonce : ',' ∉ nonce.toList) (hnonce' : ',' ∉ nonce'.toList)
    (h : (withNonce algorithm username password nonce).start =
      (withNonce algorithm' username' password' nonce').start) :
    username = username' ∧ nonce = nonce' := by
  have hbare : (withNonce algorithm username password nonce).clientFirstBare.toList =
      (withNonce algorithm' username' password' nonce').clientFirstBare.toList := by
    have htext := congrArg String.toList (asBytes_injective h)
    simpa [toString] using htext
  have hparts := congrArg (List.splitOn ',') hbare
  rw [clientFirstBare_splitOn _ _ _ hnonce, clientFirstBare_splitOn _ _ _ hnonce'] at hparts
  simp only [List.cons.injEq, true_and, and_true] at hparts
  obtain ⟨hescaped, hsame⟩ := hparts
  refine ⟨String.toList_inj.1 ?_, String.toList_inj.1 hsame⟩
  rw [← unescapeUsername_escape username.toList, hescaped, unescapeUsername_escape]

/-- User names cannot inject attributes: the client-first message has two attributes, and
different names or nonces give different messages. -/
theorem withNonce_unambiguous (algorithm : ScramAlgorithm) (username password nonce : String)
    (hnonce : ',' ∉ nonce.toList) :
    (withNonce algorithm username password nonce).clientFirstBare.toList.splitOn ',' =
        ["n=".toList ++ escapeUsername username.toList, "r=".toList ++ nonce.toList] ∧
      unescapeUsername (escapeUsername username.toList) = username.toList ∧
      ∀ algorithm' username' password' nonce', ',' ∉ nonce'.toList →
        (username, nonce) ≠ (username', nonce') →
        (withNonce algorithm username password nonce).start ≠
          (withNonce algorithm' username' password' nonce').start := by
  refine ⟨clientFirstBare_splitOn _ _ _ hnonce, unescapeUsername_escape _, ?_⟩
  intro algorithm' username' password' nonce' hnonce' hne h
  obtain ⟨rfl, rfl⟩ := start_injective hnonce hnonce' h
  exact hne rfl

theorem withNonce_unambiguous_sample :
    (withNonce .sha1 "=2C,r=x" "" "y").clientFirstBare.toList.splitOn ',' =
        ["n=".toList ++ escapeUsername "=2C,r=x".toList, "r=".toList ++ "y".toList] ∧
      unescapeUsername (escapeUsername "=2C,r=x".toList) = "=2C,r=x".toList ∧
      (withNonce .sha1 "=2C,r=x" "" "y").start ≠ (withNonce .sha1 ",,r=x" "" "y").start := by
  obtain ⟨hsplit, hname, hne⟩ := withNonce_unambiguous .sha1 "=2C,r=x" "" "y" (by decide)
  exact ⟨hsplit, hname, hne .sha1 ",,r=x" "" "y" (by decide) (by decide)⟩

end ScramClient

end RustDcp
