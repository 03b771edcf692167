import LocationRelay.Endpoint
import LocationRelay.Proofs.Checks
import LocationRelay.Proofs.TextBytes
import LocationRelay.Proofs.Trimming

/-! # The grammar of endpoints

An endpoint is spelled by a scheme, a host and a port, with blanks allowed around the host and around the port and
a slash allowed at the end. Main statement: a text is read as an endpoint exactly when, but for blanks around it, it
is a spelling of it, and what an endpoint that was read is printed as is read as the same endpoint again.
-/
namespace LocationRelay

namespace Text

/-! ## Whole numbers -/

/-- One digit or more with the given value, after a plus sign or without a sign. -/
def IsNumeral (n : Nat) (cs : List Char) : Prop :=
  ∃ sign ds, cs = sign ++ ds ∧ (sign = [] ∨ sign = ['+']) ∧ ds ≠ [] ∧ (∀ c ∈ ds, c.isDigit = true) ∧
    Nat.ofDigitChars 10 ds 0 = n

theorem digit?_eq_some {c : Char} {n : Nat} : digit? c = some n ↔ c.isDigit = true ∧ c.toNat - '0'.toNat = n := by
  rw [digit?, Option.ite_none_right_eq_some, Option.some.injEq]
  simp only [Char.isDigit, Bool.and_eq_true, decide_eq_true_eq]
  rfl

theorem digitsFrom?_eq_some {cs : List Char} {v n : Nat} :
    digitsFrom? v cs = some n ↔ (∀ c ∈ cs, c.isDigit = true) ∧ Nat.ofDigitChars 10 cs v = n := by
  constructor
  · intro h
    have hdigit : ∀ c ∈ cs, c.isDigit = true := by
      induction cs generalizing v with
      | nil => exact fun _ hc => nomatch hc
      | cons c cs ih =>
        obtain ⟨d, hd, hrest⟩ := Option.bind_eq_some_iff.mp h
        exact List.forall_mem_cons.mpr ⟨(digit?_eq_some.mp hd).1, ih hrest⟩
    rw [digitsFrom?_of_isDigit hdigit] at h
    exact ⟨hdigit, Option.some.inj h⟩
  · rintro ⟨hdigit, rfl⟩
    exact digitsFrom?_of_isDigit hdigit v

theorem digits?_eq_some {cs : List Char} {n : Nat} : digits? cs = some n ↔
    cs ≠ [] ∧ (∀ c ∈ cs, c.isDigit = true) ∧ Nat.ofDigitChars 10 cs 0 = n := by
  cases cs with
  | nil => simp [digits?]
  | cons c cs => rw [digits?.eq_2 _ (by simp), digitsFrom?_eq_some, and_iff_right (List.cons_ne_nil c cs)]

theorem unsigned?_eq_some {limit n : Nat} {cs : List Char} :
    unsigned? limit cs = some n ↔ IsNumeral n cs ∧ n ≤ limit := by
  constructor
  · intro h
    obtain ⟨m, hread, hlimit⟩ := Option.bind_eq_some_iff.mp h
    obtain ⟨hle, hm⟩ := Option.ite_none_right_eq_some.mp hlimit
    cases hm
    split at hread
    · next rest => exact ⟨⟨['+'], rest, rfl, .inr rfl, digits?_eq_some.mp hread⟩, hle⟩
    · exact ⟨⟨[], cs, rfl, .inl rfl, digits?_eq_some.mp hread⟩, hle⟩
  · rintro ⟨⟨sign, ds, rfl, hsign, hdigits⟩, hle⟩
    have hread := digits?_eq_some.mpr hdigits
    refine Option.bind_eq_some_iff.mpr ⟨n, ?_, if_pos hle⟩
    rcases hsign with rfl | rfl
    · rw [List.nil_append]
      split
      · exact absurd (hdigits.2.1 '+' List.mem_cons_self) (by decide)
      · exact hread
    · exact hread

theorem isNumeral_decimal (n : Nat) : IsNumeral n (decimal n).toList := by
  rw [decimal, String.toList_ofList]
  exact (unsigned?_eq_some.mp (unsigned?_toDigits (Nat.le_refl n))).1

theorem trim_subset (cs : List Char) : trim cs ⊆ cs :=
  List.Subset.trans (trimEnd_subset _) (List.dropWhile_suffix isBlank).subset

end Text

namespace Endpoint

def IsPathMark (c : Char) : Prop := c = '/' ∨ c = '?' ∨ c = '#'

/-- What stands on the two sides of the last colon of an endpoint: its host, in brackets if there are colons in it,
and its port, both perhaps with blanks around them. -/
structure HasSides (e : Endpoint) (host port : List Char) : Prop where
  plain : ∀ c ∈ host ++ ':' :: port, ¬ IsPathMark c
  last : ':' ∉ port
  host : Text.trim host = e.host.toList
  named : e.host ≠ ""
  bracketed : ':' ∈ e.host.toList → e.host.toList.head? = some '[' ∧ e.host.toList.getLast? = some ']'
  port : Text.IsNumeral e.port (Text.trim port)
  positive : 1 ≤ e.port
  small : e.port ≤ 65535

def Spelled (e : Endpoint) (t : List Char) : Prop :=
  ∃ host port closing, e.HasSides host port ∧ (closing = [] ∨ closing = ['/']) ∧
    t = e.scheme.name.toList ++ "://".toList ++ (host ++ ':' :: port) ++ closing

/-! ## Reading -/

theorem scheme?_eq_some {cs rest : List Char} {scheme : Scheme} :
    scheme? cs = some (scheme, rest) ↔ cs = scheme.name.toList ++ "://".toList ++ rest := by
  have hws : "ws://".toList = Scheme.ws.name.toList ++ "://".toList := by decide
  have hwss : "wss://".toList = Scheme.wss.name.toList ++ "://".toList := by decide
  unfold scheme?
  split
  · next found hfound =>
    rw [Text.dropPrefix?_eq_some, hws] at hfound
    subst hfound
    cases scheme with
    | ws => simp [eq_comm]
    | wss => simp [Scheme.name]
  · next hnone =>
    rw [Option.map_eq_some_iff]
    simp only [Prod.mk.injEq, Text.dropPrefix?_eq_some, hwss]
    constructor
    · rintro ⟨_, rfl, rfl, rfl⟩
      rfl
    · rintro rfl
      cases scheme with
      | ws =>
        have hfound : Text.dropPrefix? "ws://" (Scheme.ws.name.toList ++ "://".toList ++ rest) = some rest :=
          Text.dropPrefix?_eq_some.mpr (by rw [hws])
        cases hnone.symm.trans hfound
      | wss => exact ⟨rest, rfl, rfl, rfl⟩

theorem hostAllowed_iff {host : List Char} : hostAllowed host = true ↔
    (':' ∈ host → host.head? = some '[' ∧ host.getLast? = some ']') := by
  simp only [hostAllowed, Bool.or_eq_true, Bool.not_eq_true', List.contains_eq_mem, decide_eq_false_iff_not,
    Bool.and_eq_true, beq_iff_eq]
  exact imp_iff_not_or.symm

def unclosed (cs : List Char) : List Char := if cs.getLast? = some '/' then cs.dropLast else cs

/-- Nothing but a slash at the end is taken off. -/
theorem unclosed_eq {cs rest : List Char} (h : '/' ∉ rest) :
    unclosed cs = rest ↔ ∃ closing, (closing = [] ∨ closing = ['/']) ∧ cs = rest ++ closing := by
  constructor
  · rintro rfl
    by_cases hlast : cs.getLast? = some '/'
    · rw [unclosed, if_pos hlast]
      exact ⟨['/'], .inr rfl, (List.dropLast_append_getLast? '/' hlast).symm⟩
    · rw [unclosed, if_neg hlast]
      exact ⟨[], .inl rfl, (List.append_nil cs).symm⟩
  · rintro ⟨closing, rfl | rfl, rfl⟩
    · rw [List.append_nil, unclosed, if_neg fun hlast => h (List.mem_of_getLast? hlast)]
    · rw [unclosed, if_pos List.getLast?_concat, List.dropLast_concat]

def ofSides? (scheme : Scheme) (host port : List Char) : Except EndpointFault Endpoint :=
  if (Text.trim host).isEmpty then .error .emptyHost
  else if hostAllowed (Text.trim host) then
    match Text.unsigned? Text.maxU16 (Text.trim port) with
    | none => .error .port
    | some n => if n = 0 then .error .port else .ok ⟨scheme, String.ofList (Text.trim host), n⟩
  else .error .unbracketedHost

theorem ofChars?_eq (cs : List Char) : ofChars? cs =
    if cs.isEmpty then .error .empty
    else match scheme? cs with
      | none => .error .scheme
      | some (scheme, rest) =>
        if (unclosed rest).any fun c => c == '/' || c == '?' || c == '#' then .error .path
        else match Text.splitLast? ':' (unclosed rest) with
          | none => .error .missingPort
          | some (host, port) => ofSides? scheme host port := by
  have hcut : ∀ rest : List Char, (if rest.getLast? = some '/' then rest.dropLast else rest) = unclosed rest :=
    fun _ => rfl
  unfold ofChars?
  cases scheme? cs with
  | none => rfl
  | some read =>
    simp only [hcut, ofSides?]
    cases Text.splitLast? ':' (unclosed read.2) with
    | none => rfl
    | some sides =>
      dsimp only
      cases Text.unsigned? Text.maxU16 (Text.trim sides.2) <;> rfl

theorem ofSides?_eq_ok {scheme : Scheme} {host port : List Char} {e : Endpoint}
    (hplain : ∀ c ∈ host ++ ':' :: port, ¬ IsPathMark c) (hlast : ':' ∉ port) :
    ofSides? scheme host port = .ok e ↔ e.scheme = scheme ∧ e.HasSides host port := by
  unfold ofSides?
  constructor
  · intro h
    by_cases hnamed : (Text.trim host).isEmpty = true
    · rw [if_pos hnamed] at h
      cases h
    rw [if_neg hnamed] at h
    by_cases hallowed : hostAllowed (Text.trim host) = true
    · rw [if_pos hallowed] at h
      split at h
      · cases h
      · next n hn =>
        by_cases hpositive : n = 0
        · rw [if_pos hpositive] at h
          cases h
        rw [if_neg hpositive] at h
        cases h
        obtain ⟨hnumeral, hsmall⟩ := Text.unsigned?_eq_some.mp hn
        refine ⟨rfl, hplain, hlast, ?_, ?_, ?_, hnumeral, Nat.pos_of_ne_zero hpositive, hsmall⟩
        · rw [String.toList_ofList]
        · rw [Ne, ← String.toList_inj, String.toList_ofList]
          exact fun hnil => hnamed (List.isEmpty_iff.mpr hnil)
        · rw [String.toList_ofList]
          exact hostAllowed_iff.mp hallowed
    · rw [if_neg hallowed] at h
      cases h
  · rintro ⟨rfl, hsides⟩
    have hhost := hsides.host
    have hnamed : ¬ (Text.trim host).isEmpty = true := by
      rw [hhost, List.isEmpty_iff, String.toList_eq_nil_iff]
      exact hsides.named
    have hallowed : hostAllowed (Text.trim host) = true := hostAllowed_iff.mpr (hhost ▸ hsides.bracketed)
    have hport : Text.unsigned? Text.maxU16 (Text.trim port) = some e.port :=
      Text.unsigned?_eq_some.mpr ⟨hsides.port, hsides.small⟩
    rw [if_neg hnamed, if_pos hallowed, hport, hhost]
    dsimp only
    rw [if_neg (Nat.pos_iff_ne_zero.mp hsides.positive), String.ofList_toList]

theorem any_pathMark {cs : List Char} : (cs.any fun c => c == '/' || c == '?' || c == '#') = true ↔
    ¬ ∀ c ∈ cs, ¬ IsPathMark c := by
  simp only [List.any_eq_true, Bool.or_eq_true, beq_iff_eq, or_assoc, not_forall, not_not, IsPathMark, exists_prop]

theorem ofChars?_eq_ok {cs : List Char} {e : Endpoint} : ofChars? cs = .ok e ↔ e.Spelled cs := by
  rw [ofChars?_eq]
  constructor
  · intro h
    split at h
    · cases h
    split at h
    · cases h
    next scheme rest hscheme =>
    split at h
    · cases h
    next hplain =>
    rw [any_pathMark, not_not] at hplain
    split at h
    · cases h
    next host port hcut =>
    have hrest := Text.splitLast?_eq_some hcut
    obtain ⟨rfl, hsides⟩ := (ofSides?_eq_ok (hrest ▸ hplain) (Text.not_mem_of_splitLast? hcut)).mp h
    obtain ⟨closing, hclosing, rfl⟩ :=
      (unclosed_eq fun hslash => hsides.plain '/' hslash (.inl rfl)).mp hrest
    refine ⟨host, port, closing, hsides, hclosing, ?_⟩
    rw [scheme?_eq_some.mp hscheme, List.append_assoc]
    simp only [List.append_assoc]
  · rintro ⟨host, port, closing, hsides, hclosing, rfl⟩
    have hrest : unclosed (host ++ ':' :: port ++ closing) = host ++ ':' :: port :=
      (unclosed_eq fun hslash => hsides.plain '/' hslash (.inl rfl)).mpr ⟨closing, hclosing, rfl⟩
    have hscheme := scheme?_eq_some.mpr (List.append_assoc (e.scheme.name.toList ++ "://".toList)
      (host ++ ':' :: port) closing)
    rw [if_neg (by simp), hscheme]
    dsimp only
    rw [hrest, if_neg (any_pathMark.not.mpr (not_not.mpr hsides.plain)), Text.splitLast?_append host hsides.last]
    exact (ofSides?_eq_ok hsides.plain hsides.last).mpr ⟨rfl, hsides⟩

theorem parse_eq_ok {s : String} {e : Endpoint} : parse s = .ok e ↔ e.Spelled (Text.trim s.toList) := by
  rw [parse, Except.mapError_eq_ok, parse?, ofChars?_eq_ok]

/-! ## Printing -/

section

variable {e : Endpoint} {host port : List Char}

theorem not_isPathMark_of_isDigit {c : Char} (h : c.isDigit = true) : ¬ IsPathMark c := by
  rintro (rfl | rfl | rfl) <;> cases h

theorem isDigit_of_mem_decimal {n : Nat} {c : Char} (h : c ∈ (Text.decimal n).toList) : c.isDigit = true := by
  rw [Text.decimal, String.toList_ofList] at h
  exact Nat.isDigit_of_mem_toDigits (by decide) (by decide) h

theorem tidy_decimal (n : Nat) : Text.Tidy (Text.decimal n).toList := by
  refine Text.tidy_of_not_blank ?_ fun c hc => ?_
  · rw [Text.decimal, String.toList_ofList]
    exact Nat.toDigits_ne_nil
  · have hbounds := Text.isDigit_bounds (isDigit_of_mem_decimal hc)
    exact Text.isBlank_of_visible ⟨by omega, by omega⟩

/-- The host and the port are printed without blanks around them. -/
theorem HasSides.printed (h : e.HasSides host port) : e.HasSides e.host.toList (Text.decimal e.port).toList where
  plain c hc := by
    rcases List.mem_append.mp hc with hhost | hport
    · exact h.plain c (List.mem_append_left _ (Text.trim_subset host (h.host ▸ hhost)))
    · rcases List.mem_cons.mp hport with rfl | hdigit
      · exact h.plain ':' (List.mem_append_right _ List.mem_cons_self)
      · exact not_isPathMark_of_isDigit (isDigit_of_mem_decimal hdigit)
  last hcolon := absurd (isDigit_of_mem_decimal hcolon) (by decide)
  host := by
    rw [← h.host]
    refine (Text.tidy_trim ?_).trim_self
    rw [h.host, Ne, String.toList_eq_nil_iff]
    exact h.named
  named := h.named
  bracketed := h.bracketed
  port := (tidy_decimal e.port).trim_self.symm ▸ Text.isNumeral_decimal e.port
  positive := h.positive
  small := h.small

theorem parse_printed (h : e.HasSides host port) {s : String} {closing : List Char}
    (hclosing : closing = [] ∨ closing = ['/'])
    (hs : s.toList = e.scheme.name.toList ++ "://".toList ++
      (e.host.toList ++ ':' :: (Text.decimal e.port).toList) ++ closing) : parse s = .ok e := by
  have hopening : Text.Tidy e.scheme.name.toList := by cases e.scheme <;> decide
  have hend : Text.Tidy ((Text.decimal e.port).toList ++ closing) := by
    rcases hclosing with rfl | rfl
    · rw [List.append_nil]
      exact tidy_decimal e.port
    · have hslash := (tidy_decimal e.port).append (by decide : Text.Tidy ['/']) []
      rwa [List.append_nil] at hslash
  have htidy : Text.Tidy s.toList := by
    have hwhole := hopening.append hend ("://".toList ++ e.host.toList ++ [':'])
    simpa only [hs, List.append_assoc, List.cons_append, List.nil_append] using hwhole
  rw [parse_eq_ok, htidy.trim_self]
  exact ⟨_, _, closing, h.printed, hclosing, hs⟩

end

/-- A text is read as an endpoint exactly when, but for blanks around it, it is a spelling of it. An endpoint that
was read is read again from its address, and also from its address without the slash at the end. -/
theorem reads_spellings (s : String) :
    (∀ e, parse s = .ok e ↔ e.Spelled (Text.trim s.toList)) ∧
    ∀ e, parse s = .ok e → parse e.url = .ok e ∧ parse (e.scheme.name ++ "://" ++ e.hostPort) = .ok e := by
  refine ⟨fun e => parse_eq_ok, fun e he => ?_⟩
  obtain ⟨host, port, -, hsides, -, -⟩ := parse_eq_ok.mp he
  refine ⟨parse_printed hsides (.inr rfl) ?_, parse_printed hsides (.inl rfl) ?_⟩
  · simp [url, hostPort]
  · simp [hostPort]

/-- Blanks in every place that allows them, brackets, a plus sign, leading zeros and a slash. -/
theorem reads_spellings_padded :
    let s := "\twss:// [::1] : +00443 / "
    let e : Endpoint := ⟨.wss, "[::1]", 443⟩
    parse s = .ok e ∧ e.Spelled (Text.trim s.toList) ∧ e.url = "wss://[::1]:443/" ∧ parse e.url = .ok e ∧
      e.scheme.name ++ "://" ++ e.hostPort = "wss://[::1]:443" ∧
      parse (e.scheme.name ++ "://" ++ e.hostPort) = .ok e := by
  intro s e
  obtain ⟨hspelled, hprinted⟩ := reads_spellings s
  have hread : parse s = .ok e := by
    rw [parse, Except.mapError_eq_ok]
    decide +kernel
  obtain ⟨hurl, hplain⟩ := hprinted e hread
  exact ⟨hread, (hspelled e).mp hread, by decide +kernel, hurl, by decide +kernel, hplain⟩

end Endpoint
end LocationRelay
