import RustDcp.ClusterConfig

namespace RustDcp
set_option autoImplicit true

def ipv6Alphabet : List Char :=
  ['0', '1', '2', '3', '4', '5', '6', '7', '8', '9', 'a', 'b', 'c', 'd', 'e', 'f',
    'A', 'B', 'C', 'D', 'E', 'F', ':', '.']

/-- The part of `Ipv6Addr::from_str` that the seeds use: whether it accepts a text, and the text of
its error. -/
structure Ipv6Parser where
  parse : List Char → Except String Unit
  alphabet : ∀ text, parse text = .ok () → ∀ c ∈ text, c ∈ ipv6Alphabet
  colon : ∀ text, parse text = .ok () → ':' ∈ text

def defaultKvPort : Nat := 11210

def defaultKvTlsPort : Nat := 11207

def trim (text : List Char) : List Char :=
  ((text.dropWhile isWhitespace).reverse.dropWhile isWhitespace).reverse

def rfind (needle text : List Char) : Option Nat :=
  (List.range text.length).reverse.find? fun index => needle.isPrefixOf (text.drop index)

def rsplitOnce (separator : Char) (text : List Char) : Option (List Char × List Char) :=
  match text.reverse.span (· ≠ separator) with
  | (_, []) => none
  | (after, _ :: before) => some (before.reverse, after.reverse)

def validatePort (port : List Char) : Result Unit :=
  match parseU16 port with
  | .ok (_ + 1) => .ok ()
  | _ => .error (.invalidConfiguration s!"invalid seed port {debugStr (String.ofList port)}")

def validateOptionalPort : (suffix : List Char) → Result Unit
  | [] => .ok ()
  | ':' :: port => validatePort port
  | _ => .error (.invalidConfiguration "unexpected characters after bracketed IPv6 seed")

def validateIpv6 (ipv6 : Ipv6Parser) (text : List Char) : Result Unit :=
  match ipv6.parse text with
  | .ok () => .ok ()
  | .error error => .error (.invalidConfiguration s!"invalid IPv6 seed: {error}")

structure SeedAddress where
  value : String
  deriving DecidableEq

namespace SeedAddress

/-- The checks of `from_str` that depend on the form of the host. -/
def validate (ipv6 : Ipv6Parser) (value : List Char) : Result Unit :=
  match value with
  | '[' :: stripped =>
    match stripped.span (· ≠ ']') with
    | (_, []) =>
      .error (.invalidConfiguration "bracketed IPv6 seed is missing a closing bracket")
    | (host, _ :: suffix) => do
      validateIpv6 ipv6 host
      validateOptionalPort suffix
  | value =>
    match value.count ':', rsplitOnce ':' value with
    | 0, _ => .ok ()
    | 1, some (host, port) =>
      if host.isEmpty then .error (.invalidConfiguration "seed host must not be empty")
      else validatePort port
    | _, _ => validateIpv6 ipv6 value

def fromStr (ipv6 : Ipv6Parser) (value : String) : Result SeedAddress :=
  let value := trim value.toList
  if value.isEmpty ∨ value.any isWhitespace then
    .error (.invalidConfiguration "seed address must be non-empty and contain no whitespace")
  else if [':', '/', '/'] <:+: value then
    .error (.invalidConfiguration "seed address must not include a URI scheme")
  else do
    validate ipv6 value
    return ⟨String.ofList value⟩

def hasExplicitPort (self : SeedAddress) : Bool :=
  let text := self.value.toList
  if text.head? = some '[' then (rfind [']', ':'] text).any fun index => index + 2 < text.length
  else text.count ':' == 1 &&
    (rsplitOnce ':' text).any fun (_, port) => (parseU16 port).isOk

def withDefaultKvPort (self : SeedAddress) (tls : Bool) : String :=
  if self.hasExplicitPort then self.value
  else
    let port := if tls then defaultKvTlsPort else defaultKvPort
    if ':' ∈ self.value.toList ∧ self.value.toList.head? ≠ some '[' then
      s!"[{self.value}]:{port}"
    else s!"{self.value}:{port}"

end SeedAddress

def endpointHost (seed : String) : String :=
  let unbracketed :=
    if seed.toList.count ':' = 1 then
      match rsplitOnce ':' seed.toList with
      | some (host, _) => String.ofList host
      | none => seed
    else seed
  match seed.toList with
  | '[' :: stripped =>
    match stripped.span (· ≠ ']') with
    | (host, _ :: _) => String.ofList host
    | (_, []) => unbracketed
  | _ => unbracketed

theorem span_append {front : List Char} (h : c ∉ front) (back : List Char) :
    (front ++ c :: back).span (· ≠ c) = (front, c :: back) := by
  have hfront : ∀ d ∈ front, decide (d ≠ c) = true := by
    intro d hd
    exact decide_eq_true fun hsame => h (hsame ▸ hd)
  rw [List.span_eq_takeWhile_dropWhile, List.takeWhile_append_of_pos hfront,
    List.dropWhile_append_of_pos hfront]
  simp

theorem span_reverse_append {after : List Char} (h : c ∉ after) (before : List Char) :
    (before ++ c :: after).reverse.span (· ≠ c) = (after.reverse, c :: before.reverse) := by
  rw [List.reverse_append, List.reverse_cons, List.append_assoc]
  exact span_append (by simpa using h) before.reverse

theorem rsplitOnce_append {after : List Char} (h : c ∉ after) (before : List Char) :
    rsplitOnce c (before ++ c :: after) = some (before, after) := by
  rw [rsplitOnce, span_reverse_append h]
  simp

theorem trim_eq (h : ∀ c ∈ text, isWhitespace c = false) : trim text = text := by
  have hkeep : ∀ {text : List Char}, (∀ c ∈ text, isWhitespace c = false) →
      text.dropWhile isWhitespace = text := by
    intro text htext
    cases text with
    | nil => rfl
    | cons c text => simp [htext c List.mem_cons_self]
  rw [trim, hkeep h, hkeep (by simpa using h), List.reverse_reverse]

structure Plain (c : Char) : Prop where
  opening : c ≠ '['
  closing : c ≠ ']'
  space : isWhitespace c = false

theorem not_invalid {host : List Char} (hsome : host ≠ [])
    (hspace : ∀ c ∈ host, isWhitespace c = false) :
    ¬ (host.isEmpty = true ∨ host.any isWhitespace = true) := by
  rw [not_or, List.isEmpty_iff, List.any_eq_true]
  refine ⟨hsome, ?_⟩
  rintro ⟨c, hc, hwhite⟩
  exact Bool.false_ne_true ((hspace c hc).symm.trans hwhite)

theorem isWhitespace_of_graphic {c : Char} (hlow : 0x20 < c.toNat) (hhigh : c.toNat < 0x80) :
    isWhitespace c = false := by
  simp only [isWhitespace, Bool.or_eq_false_iff, Bool.and_eq_false_iff, beq_eq_false_iff_ne,
    decide_eq_false_iff_not]
  omega

theorem Plain.of_toNat {c : Char} (hlow : 0x20 < c.toNat) (hhigh : c.toNat < 0x80)
    (hopening : c.toNat ≠ 0x5b) (hclosing : c.toNat ≠ 0x5d) : Plain c :=
  ⟨fun h => hopening (h ▸ rfl), fun h => hclosing (h ▸ rfl), isWhitespace_of_graphic hlow hhigh⟩

structure PortText (port : Nat) (text : List Char) : Prop where
  digits : ∀ c ∈ text, c.isDigit = true
  some : text ≠ []
  parse : parseU16 text = .ok port

theorem portText (h : port ≤ 65535) : PortText port (Nat.toDigits 10 port) where
  digits _ hc := Nat.isDigit_of_mem_toDigits (by decide) (by decide) hc
  some := Nat.toDigits_ne_nil
  parse := by
    rw [parseU16, Decimal.parse_toDigits h]
    rfl

theorem Plain.of_isDigit (h : c.isDigit = true) : Plain c ∧ c ≠ ':' ∧ c ≠ '/' := by
  refine ⟨?_, ?_, ?_⟩
  · have hrange : 48 ≤ c.toNat ∧ c.toNat ≤ 57 := Char.isDigit_iff_toNat.1 h
    exact .of_toNat (by omega) (by omega) (by omega) (by omega)
  · rintro rfl
    cases h
  · rintro rfl
    cases h

namespace PortText

theorem plain (h : PortText port text) : ∀ c ∈ text, Plain c := fun c hc =>
  (Plain.of_isDigit (h.digits c hc)).1

theorem space (h : PortText port text) : ∀ c ∈ ':' :: text, isWhitespace c = false := by
  intro c hc
  rcases List.mem_cons.1 hc with rfl | hc
  · exact isWhitespace_of_graphic (by decide) (by decide)
  · exact (h.plain c hc).space

theorem no_colon (h : PortText port text) : ':' ∉ text := fun hc =>
  (Plain.of_isDigit (h.digits ':' hc)).2.1 rfl

theorem no_slash (h : PortText port text) : '/' ∉ text := fun hc =>
  (Plain.of_isDigit (h.digits '/' hc)).2.2 rfl

theorem validatePort (h : PortText port text) (hport : port ≠ 0) : validatePort text = .ok () := by
  obtain ⟨n, rfl⟩ := Nat.exists_eq_succ_of_ne_zero hport
  rw [RustDcp.validatePort, h.parse]

theorem parseHostPort (h : PortText port text) (hport : port ≠ 0) (hsome : host ≠ [])
    (hplain : ∀ c ∈ host, Plain c) (original : String) :
    parseHostPort host text original = .ok (host, port) := by
  obtain ⟨n, rfl⟩ := Nat.exists_eq_succ_of_ne_zero hport
  rw [RustDcp.parseHostPort, if_neg (not_invalid hsome fun c hc => (hplain c hc).space), h.parse]
  rfl

end PortText

theorem Ipv6Parser.plain (ipv6 : Ipv6Parser) (h : ipv6.parse text = .ok ()) :
    ∀ c ∈ text, Plain c ∧ c ≠ '/' := by
  have halphabet : ∀ c ∈ ipv6Alphabet, 0x20 < c.toNat ∧ c.toNat < 0x80 ∧ c.toNat ≠ 0x5b ∧
      c.toNat ≠ 0x5d ∧ c ≠ '/' := by
    simp [ipv6Alphabet]
  intro c hc
  obtain ⟨hlow, hhigh, hopening, hclosing, hslash⟩ := halphabet c (ipv6.alphabet text h c hc)
  exact ⟨.of_toNat hlow hhigh hopening hclosing, hslash⟩

structure Survives (ipv6 : Ipv6Parser) (host : List Char) (port : Nat) (endpoint : String) :
    Prop where
  split : splitEndpoint endpoint = .ok (host, port)
  seed : SeedAddress.fromStr ipv6 endpoint = .ok ⟨endpoint⟩
  explicit : (SeedAddress.mk endpoint).hasExplicitPort = true
  server : endpointHost endpoint = String.ofList host

theorem SeedAddress.fromStr_eq_ok (ipv6 : Ipv6Parser) (hsome : text ≠ [])
    (hspace : ∀ c ∈ text, isWhitespace c = false) (hscheme : ¬ [':', '/', '/'] <:+: text)
    (hvalid : validate ipv6 text = .ok ()) :
    fromStr ipv6 (String.ofList text) = .ok ⟨String.ofList text⟩ := by
  rw [fromStr, String.toList_ofList, trim_eq hspace, if_neg (not_invalid hsome hspace),
    if_neg hscheme, hvalid]
  rfl

theorem count_colon {host : List Char} (hcolon : ':' ∉ host) (htext : PortText port text) :
    (host ++ ':' :: text).count ':' = 1 := by
  rw [List.count_append, List.count_cons_self, List.count_eq_zero.2 hcolon,
    List.count_eq_zero.2 htext.no_colon]

theorem no_scheme {host text : List Char} (hcolon : ':' ∉ host) (htext : PortText port text) :
    ¬ [':', '/', '/'] <:+: host ++ ':' :: text := by
  rintro ⟨front, back, h⟩
  replace h : front ++ ':' :: '/' :: '/' :: back = host ++ ':' :: text := by
    simpa using h
  have hcount := congrArg (List.count ':') h
  rw [count_colon hcolon htext, List.count_append, List.count_cons_self] at hcount
  have hback : ':' ∉ '/' :: '/' :: back := List.count_eq_zero.1 (by omega)
  have hsplit := congrArg (rsplitOnce ':') h
  rw [rsplitOnce_append hback, rsplitOnce_append htext.no_colon] at hsplit
  obtain ⟨-, rfl⟩ := Prod.mk.inj (Option.some.inj hsplit)
  exact htext.no_slash List.mem_cons_self

theorem survives_plain (ipv6 : Ipv6Parser) (hport : port ≠ 0) (htext : PortText port text)
    (hsome : host ≠ []) (hplain : ∀ c ∈ host, Plain c) (hcolon : ':' ∉ host) :
    Survives ipv6 host port (String.ofList (host ++ ':' :: text)) := by
  have hcount := count_colon hcolon htext
  have hsplit := rsplitOnce_append htext.no_colon host
  have hbracket : ∀ stripped, host ++ ':' :: text ≠ '[' :: stripped := by
    intro stripped h
    cases host with
    | nil => exact hsome rfl
    | cons c host => exact (hplain c List.mem_cons_self).opening (List.cons.inj h).1
  have hspace : ∀ c ∈ host ++ ':' :: text, isWhitespace c = false := by
    intro c hc
    rcases List.mem_append.1 hc with hc | hc
    · exact (hplain c hc).space
    · exact htext.space c hc
  constructor
  · rw [splitEndpoint, String.toList_ofList]
    split
    · rename_i stripped hchars
      exact absurd hchars (hbracket stripped)
    · rw [span_reverse_append htext.no_colon]
      dsimp only
      rw [if_neg (by simpa using hcolon), List.reverse_reverse, List.reverse_reverse]
      exact htext.parseHostPort hport hsome hplain _
  · refine SeedAddress.fromStr_eq_ok ipv6 (by simp) hspace (no_scheme hcolon htext) ?_
    rw [SeedAddress.validate]
    · rw [hcount, hsplit]
      exact (if_neg (by simpa using hsome)).trans (htext.validatePort hport)
    · exact hbracket
  · rw [SeedAddress.hasExplicitPort]
    dsimp only
    rw [String.toList_ofList, if_neg, hcount, hsplit]
    · simp [htext.parse, Except.isOk, Except.toBool]
    · intro h
      obtain ⟨stripped, hchars⟩ := List.head?_eq_some_iff.1 h
      exact hbracket stripped hchars
  · rw [endpointHost, String.toList_ofList, hcount, hsplit]
    split
    · rename_i stripped hchars
      exact absurd hchars (hbracket stripped)
    · rfl

theorem rfind_bracket (host : List Char) (htext : PortText port text) :
    (rfind [']', ':'] ('[' :: host ++ ']' :: ':' :: text)).any
      (fun index => index + 2 < ('[' :: host ++ ']' :: ':' :: text).length) = true := by
  have hfound : (rfind [']', ':'] ('[' :: host ++ ']' :: ':' :: text)).isSome = true := by
    rw [rfind, List.find?_isSome]
    exact ⟨host.length + 1, by simp, by simp⟩
  obtain ⟨index, hindex⟩ := Option.isSome_iff_exists.1 hfound
  have hfront := List.find?_some (p := fun index => [']', ':'].isPrefixOf _) hindex
  obtain ⟨rest, hrest⟩ := List.isPrefixOf_iff_prefix.1 hfront
  have hsome : rest ≠ [] := by
    rintro rfl
    obtain ⟨init, last, rfl⟩ := (List.eq_nil_or_concat' text).resolve_left htext.some
    have hwhole := List.take_append_drop index ('[' :: host ++ ']' :: ':' :: (init ++ [last]))
    rw [← hrest] at hwhole
    have hlast : some ':' = some last := by
      calc
        some ':' = (List.take index _ ++ ([']', ':'] ++ [])).getLast? := by simp
        _ = ('[' :: host ++ ']' :: ':' :: init ++ [last]).getLast? := by rw [hwhole]; simp
        _ = some last := List.getLast?_concat
    obtain rfl := Option.some.inj hlast
    exact htext.no_colon (by simp)
  have hlength := congrArg List.length hrest
  have hpos := List.length_pos_of_ne_nil hsome
  rw [hindex, Option.any_some, decide_eq_true_eq]
  simp at hlength ⊢
  omega

theorem survives_ipv6 (ipv6 : Ipv6Parser) (hport : port ≠ 0) (htext : PortText port text)
    (hhost : ipv6.parse host = .ok ()) :
    Survives ipv6 host port (String.ofList ('[' :: host ++ ']' :: ':' :: text)) := by
  have hplain := ipv6.plain hhost
  have hsome : host ≠ [] := List.ne_nil_of_mem (ipv6.colon host hhost)
  have hspan := span_append (fun hc => (hplain ']' hc).1.closing rfl) (':' :: text)
  have hchars : ∀ c ∈ '[' :: host ++ ']' :: ':' :: text, isWhitespace c = false ∧ c ≠ '/' := by
    intro c hc
    rw [List.cons_append, List.mem_cons, List.mem_append, List.mem_cons] at hc
    rcases hc with rfl | hc | rfl | hc
    · exact ⟨isWhitespace_of_graphic (by decide) (by decide), by decide⟩
    · exact ⟨(hplain c hc).1.space, (hplain c hc).2⟩
    · exact ⟨isWhitespace_of_graphic (by decide) (by decide), by decide⟩
    · refine ⟨htext.space c hc, ?_⟩
      rintro rfl
      exact htext.no_slash ((List.mem_cons.1 hc).resolve_left (by decide))
  have hscheme : ¬ [':', '/', '/'] <:+: '[' :: host ++ ']' :: ':' :: text := fun h =>
    (hchars '/' (h.subset (by simp))).2 rfl
  constructor
  · simp only [splitEndpoint, String.toList_ofList, List.cons_append]
    rw [hspan]
    exact htext.parseHostPort hport hsome (fun c hc => (hplain c hc).1) _
  · refine SeedAddress.fromStr_eq_ok ipv6 (by simp) (fun c hc => (hchars c hc).1) hscheme ?_
    rw [List.cons_append, SeedAddress.validate, hspan]
    dsimp only
    rw [validateIpv6, hhost]
    exact htext.validatePort hport
  · rw [SeedAddress.hasExplicitPort, String.toList_ofList]
    exact rfind_bracket host htext
  · simp only [endpointHost, String.toList_ofList, List.cons_append]
    rw [hspan]

/-- The hosts of nodes: names and IPv4 addresses, and IPv6 literals without brackets. -/
def ValidHost (ipv6 : Ipv6Parser) (host : List Char) : Prop :=
  host ≠ [] ∧ (∀ c ∈ host, c ≠ ':' ∧ c ≠ '[' ∧ c ≠ ']' ∧ isWhitespace c = false) ∨
    ipv6.parse host = .ok ()

theorem stripBrackets_of_plain (h : ∀ c ∈ host, Plain c) : stripBrackets host = host := by
  rw [stripBrackets.eq_def]
  split
  · exact absurd rfl (h '[' List.mem_cons_self).opening
  · rfl

theorem toString_string (text : String) : toString text = text := rfl

theorem formatEndpoint_plain (hsome : host ≠ []) (hplain : ∀ c ∈ host, Plain c)
    (hcolon : ':' ∉ host) (port : Nat) :
    formatEndpoint host port = .ok (String.ofList (host ++ ':' :: Nat.toDigits 10 port)) := by
  rw [formatEndpoint, stripBrackets_of_plain hplain]
  rw [if_neg (not_invalid hsome fun c hc => (hplain c hc).space), if_neg hcolon,
    ← Decimal.toString_toList]
  congr 1
  exact String.toList_inj.1 (by simp [toString_string])

theorem formatEndpoint_ipv6 (ipv6 : Ipv6Parser) (hhost : ipv6.parse host = .ok ()) (port : Nat) :
    formatEndpoint host port =
      .ok (String.ofList ('[' :: host ++ ']' :: ':' :: Nat.toDigits 10 port)) := by
  have hplain : ∀ c ∈ host, Plain c := fun c hc => (ipv6.plain hhost c hc).1
  have hcolon := ipv6.colon host hhost
  rw [formatEndpoint, stripBrackets_of_plain hplain]
  rw [if_neg (not_invalid (List.ne_nil_of_mem hcolon) fun c hc => (hplain c hc).space),
    if_pos hcolon, ← Decimal.toString_toList]
  congr 1
  exact String.toList_inj.1 (by simp [toString_string])

/-- Endpoint texts survive every parser. -/
theorem formatEndpoint_survives (ipv6 : Ipv6Parser) (host : String) (port : UInt16)
    (hhost : ValidHost ipv6 host.toList) (hport : port ≠ 0) :
    ∃ endpoint, formatEndpoint host.toList port.toNat = .ok endpoint ∧
      splitEndpoint endpoint = .ok (host.toList, port.toNat) ∧
      SeedAddress.fromStr ipv6 endpoint = .ok ⟨endpoint⟩ ∧
      (∀ tls, (SeedAddress.mk endpoint).withDefaultKvPort tls = endpoint) ∧
      endpointHost endpoint = host := by
  have hpos : port.toNat ≠ 0 := by
    rwa [Ne, ← UInt16.toNat_zero, UInt16.toNat_inj]
  have htext : PortText port.toNat (Nat.toDigits 10 port.toNat) :=
    portText (Nat.le_of_lt_succ port.toNat_lt)
  obtain ⟨endpoint, hformat, h⟩ : ∃ endpoint, formatEndpoint host.toList port.toNat = .ok endpoint ∧
      Survives ipv6 host.toList port.toNat endpoint := by
    rcases hhost with ⟨hsome, hchars⟩ | hhost
    · have hplain : ∀ c ∈ host.toList, Plain c := fun c hc =>
        ⟨(hchars c hc).2.1, (hchars c hc).2.2.1, (hchars c hc).2.2.2⟩
      have hcolon : ':' ∉ host.toList := fun hc => (hchars ':' hc).1 rfl
      exact ⟨_, formatEndpoint_plain hsome hplain hcolon _,
        survives_plain ipv6 hpos htext hsome hplain hcolon⟩
    · exact ⟨_, formatEndpoint_ipv6 ipv6 hhost _, survives_ipv6 ipv6 hpos htext hhost⟩
  refine ⟨endpoint, hformat, h.split, h.seed, fun tls => ?_, ?_⟩
  · rw [SeedAddress.withDefaultKvPort, if_pos h.explicit]
  · rw [h.server, String.ofList_toList]

def loopbackOnly : Ipv6Parser where
  parse text := if text = [':', ':', '1'] then .ok () else .error "invalid IPv6 address syntax"
  alphabet := by
    intro text h
    split at h
    · subst text
      simp [ipv6Alphabet]
    · cases h
  colon := by
    intro text h
    split at h
    · subst text
      decide
    · cases h

theorem formatEndpoint_survives_sample :
    (∃ endpoint, formatEndpoint "::1".toList (11210 : UInt16).toNat = .ok endpoint ∧
      splitEndpoint endpoint = .ok ("::1".toList, (11210 : UInt16).toNat) ∧
      SeedAddress.fromStr loopbackOnly endpoint = .ok ⟨endpoint⟩ ∧
      (∀ tls, (SeedAddress.mk endpoint).withDefaultKvPort tls = endpoint) ∧
      endpointHost endpoint = "::1") ∧
    ∃ endpoint, formatEndpoint "db.local".toList (80 : UInt16).toNat = .ok endpoint ∧
      splitEndpoint endpoint = .ok ("db.local".toList, (80 : UInt16).toNat) ∧
      SeedAddress.fromStr loopbackOnly endpoint = .ok ⟨endpoint⟩ ∧
      (∀ tls, (SeedAddress.mk endpoint).withDefaultKvPort tls = endpoint) ∧
      endpointHost endpoint = "db.local" :=
  ⟨formatEndpoint_survives loopbackOnly "::1" 11210 (.inr rfl) (by decide),
    formatEndpoint_survives loopbackOnly "db.local" 80
      (.inl ⟨by decide, by simp [isWhitespace]⟩) (by decide)⟩

end RustDcp
