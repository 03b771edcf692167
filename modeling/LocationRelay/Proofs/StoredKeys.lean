import LocationRelay.Key.Material
import LocationRelay.Proofs.LowerCase
import LocationRelay.Proofs.TextBytes

/-! # Stored public keys

A public key may be stored as a whole envelope, as one with its line ends written as a backslash and a letter
n, or as bare base64 text with breaks anywhere. All of these are brought into the same envelope.
-/
namespace LocationRelay.Key

/-! ## Lines -/

/-- A text broken into lines of the given width, of which the last may be shorter. -/
structure Lines (width : Nat) (cs : List Char) (lines : List (List Char)) : Prop where
  flatten : lines.flatten = cs
  full : ∀ line ∈ lines.dropLast, line.length = width
  last : ∀ line ∈ lines.getLast?, line ≠ [] ∧ line.length ≤ width

section

variable {width : Nat} {cs line rest : List Char} {lines lines' : List (List Char)}

theorem lines_nil : Lines width [] [] := ⟨rfl, nofun, nofun⟩

theorem Lines.cons (h : Lines width rest lines) (hne : line ≠ []) (hle : line.length ≤ width)
    (hfull : lines ≠ [] → line.length = width) : Lines width (line ++ rest) (line :: lines) := by
  cases lines with
  | nil =>
    refine ⟨by rw [List.flatten_cons, h.flatten], nofun, fun l hl => ?_⟩
    cases hl
    exact ⟨hne, hle⟩
  | cons next lines =>
    refine ⟨by rw [List.flatten_cons, h.flatten], fun l hl => ?_, fun l hl => ?_⟩
    · rw [List.dropLast_cons_of_ne_nil (List.cons_ne_nil _ _)] at hl
      rcases List.mem_cons.mp hl with rfl | hl
      · exact hfull (List.cons_ne_nil _ _)
      · exact h.full l hl
    · rw [List.getLast?_cons_cons] at hl
      exact h.last l hl

theorem Lines.eq_nil (h : Lines width [] lines) : lines = [] := by
  rcases List.eq_nil_or_concat lines with rfl | ⟨init, line, rfl⟩
  · rfl
  · have hline := (h.last line (by simp)).1
    have hflat := h.flatten
    simp [hline] at hflat

/-- The first line is as long as can be. -/
theorem Lines.uncons (h : Lines width cs (line :: lines)) :
    line = cs.take width ∧ Lines width (cs.drop width) lines := by
  obtain ⟨rfl, hfull, hlast⟩ := h
  cases lines with
  | nil =>
    have hle := (hlast line rfl).2
    simp only [List.flatten_cons, List.flatten_nil, List.append_nil]
    rw [List.take_of_length_le hle, List.drop_of_length_le hle]
    exact ⟨rfl, lines_nil⟩
  | cons next lines =>
    have hline : line.length = width := hfull line List.mem_cons_self
    rw [List.flatten_cons, List.take_left' hline, List.drop_left' hline]
    refine ⟨rfl, rfl, fun l hl => hfull l ?_, fun l hl => hlast l ?_⟩
    · exact List.mem_cons_of_mem _ hl
    · rwa [List.getLast?_cons_cons]

/-- There is one way to break a text into lines. -/
theorem Lines.unique (h : Lines width cs lines) (h' : Lines width cs lines') : lines = lines' := by
  induction lines generalizing cs lines' with
  | nil =>
    obtain rfl : [] = cs := h.flatten
    exact h'.eq_nil.symm
  | cons line lines ih =>
    cases lines' with
    | nil =>
      obtain rfl : [] = cs := h'.flatten
      exact h.eq_nil
    | cons line' lines' =>
      rw [h.uncons.1, h'.uncons.1, ih h.uncons.2 h'.uncons.2]

theorem lines_chunks (hwidth : 0 < width) (cs : List Char) :
    Lines width cs (Crypto.chunks width cs) := by
  have hgo : ∀ (fuel : Nat) (cs : List Char), cs.length ≤ fuel →
      Lines width cs (Crypto.chunks.go width fuel cs) := by
    intro fuel
    induction fuel with
    | zero =>
      intro cs hfuel
      rw [List.length_eq_zero_iff.mp (Nat.le_zero.mp hfuel)]
      exact lines_nil
    | succ fuel ih =>
      intro cs hfuel
      cases cs with
      | nil => exact lines_nil
      | cons c cs =>
        have hshort : ((c :: cs).drop width).length ≤ fuel := by
          rw [List.length_drop]
          omega
        have hrest := ih _ hshort
        have hne : (c :: cs).take width ≠ [] := fun hnil =>
          (List.take_eq_nil_iff.mp hnil).elim (Nat.ne_of_gt hwidth) (List.cons_ne_nil c cs)
        have hcons := hrest.cons hne (List.length_take_le _ _) fun hmore => ?_
        · rwa [List.take_append_drop] at hcons
        · refine List.length_take_of_le (Nat.le_of_not_lt fun hlt => hmore ?_)
          rw [List.drop_of_length_le (Nat.le_of_lt hlt)] at hrest ⊢
          exact hrest.eq_nil
  exact hgo cs.length cs (Nat.le_refl _)

end

/-! ## Envelopes -/

def IsBase64 (c : Char) : Prop := c.isAlphanum = true ∨ c = '+' ∨ c = '/' ∨ c = '='

def firstLine : List Char := "-----BEGIN PUBLIC KEY-----".toList

def lastLine : List Char := "-----END PUBLIC KEY-----".toList

def envelope (lines : List (List Char)) : List Char :=
  ['\n'].intercalate (firstLine :: (lines ++ [lastLine]))

def escapeLines (cs : List Char) : List Char :=
  cs.flatMap fun c => if c = '\n' then ['\\', 'n'] else [c]

/-- The text with blanks, and pairs of a backslash and a letter n, put in anywhere. -/
inductive Scattered : List Char → List Char → Prop
  | nil : Scattered [] []
  | char (c : Char) {body cs : List Char} (h : Scattered body cs) : Scattered (c :: body) (c :: cs)
  | blank {c : Char} (hc : Text.isBlank c = true) {body cs : List Char} (h : Scattered body cs) :
      Scattered body (c :: cs)
  | escape {body cs : List Char} (h : Scattered body cs) : Scattered body ('\\' :: 'n' :: cs)

inductive StoredForm (body : List Char) (lines : List (List Char)) : List Char → Prop
  | whole : StoredForm body lines (envelope lines)
  | escaped : StoredForm body lines (escapeLines (envelope lines))
  | bare {cs : List Char} (h : Scattered body cs) : StoredForm body lines cs

def IsStored (body : List Char) (lines : List (List Char)) (raw : String) : Prop :=
  ∃ before form after, raw.toList = before ++ form ++ after ∧ StoredForm body lines form ∧
    (∀ c ∈ before, Text.isBlank c = true) ∧ ∀ c ∈ after, Text.isBlank c = true

section

variable {c : Char} {body cs ds before after : List Char} {lines : List (List Char)}

theorem IsBase64.bounds (h : IsBase64 c) :
    43 ≤ c.toNat ∧ c.toNat ≤ 122 ∧ c.toNat ≠ 45 ∧ c.toNat ≠ 92 := by
  rcases h with h | rfl | rfl | rfl
  · have hkind : ((c.isUpper || c.isLower) || c.isDigit) = true := h
    rw [Bool.or_eq_true, Bool.or_eq_true, Text.isUpper_iff, Text.isLower_iff] at hkind
    obtain (hletter | hletter) | hdigit := hkind
    · omega
    · omega
    · have hbounds := Text.isDigit_bounds hdigit
      omega
  · decide
  · decide
  · decide

theorem IsBase64.not_blank (h : IsBase64 c) : Text.isBlank c = false := by
  obtain ⟨hlow, hhigh, -⟩ := h.bounds
  exact Text.isBlank_of_visible (by omega)

theorem IsBase64.ne_dash (h : IsBase64 c) : c ≠ '-' := fun hc => h.bounds.2.2.1 (hc ▸ rfl)

theorem IsBase64.ne_backslash (h : IsBase64 c) : c ≠ '\\' := fun hc => h.bounds.2.2.2 (hc ▸ rfl)

theorem intercalate_newline (line : List Char) (lines : List (List Char)) (last : List Char) :
    ['\n'].intercalate (line :: (lines ++ [last])) =
      line ++ '\n' :: (lines.flatMap (· ++ ['\n']) ++ last) := by
  induction lines generalizing line with
  | nil => simp [List.intercalate]
  | cons next lines ih => rw [List.cons_append, List.intercalate_cons_cons, ih]; simp

theorem envelope_eq (lines : List (List Char)) :
    envelope lines = firstLine ++ '\n' :: lines.flatMap (· ++ ['\n']) ++ lastLine := by
  rw [envelope, intercalate_newline, List.append_assoc, List.cons_append]

theorem wrapBase64_eq (body : List Char) : wrapBase64 body = envelope (Crypto.chunks 64 body) := by
  have hfirst : "-----BEGIN PUBLIC KEY-----\n".toList = firstLine ++ ['\n'] := by decide +kernel
  calc wrapBase64 body
      = firstLine ++ ['\n'] ++ (Crypto.chunks 64 body).flatMap (· ++ ['\n']) ++ lastLine :=
        congrArg (· ++ (Crypto.chunks 64 body).flatMap (· ++ ['\n']) ++ lastLine) hfirst
    _ = envelope (Crypto.chunks 64 body) := by
        rw [envelope_eq, List.append_assoc firstLine, List.singleton_append]

/-! ## Backslashes -/

theorem unescapeLines_append (h : '\\' ∉ cs) (ds : List Char) :
    unescapeLines (cs ++ ds) = cs ++ unescapeLines ds := by
  induction cs with
  | nil => rfl
  | cons c cs ih =>
    rw [List.mem_cons, not_or] at h
    rw [List.cons_append, unescapeLines, ih h.2, List.cons_append]
    intro rest hc
    exact absurd hc.symm h.1

theorem unescapeLines_escapeLines (h : '\\' ∉ cs) (ds : List Char) :
    unescapeLines (escapeLines cs ++ ds) = cs ++ unescapeLines ds := by
  induction cs with
  | nil => rfl
  | cons c cs ih =>
    rw [List.mem_cons, not_or] at h
    have hcons : escapeLines (c :: cs) = (if c = '\n' then ['\\', 'n'] else [c]) ++ escapeLines cs := rfl
    rw [hcons, List.append_assoc]
    split
    · next hc =>
      subst hc
      exact congrArg ('\n' :: ·) (ih h.2)
    · next hc =>
      rw [unescapeLines_append (by simpa using h.1), ih h.2]
      rfl

theorem backslash_not_blank (h : ∀ c ∈ cs, Text.isBlank c = true) : '\\' ∉ cs := by
  intro hmem
  have hblank := h '\\' hmem
  cases hblank

theorem unescapeLines_eq_self (h : '\\' ∉ cs) : unescapeLines cs = cs := by
  have happend := unescapeLines_append h []
  rwa [List.append_nil, show unescapeLines [] = [] from rfl, List.append_nil] at happend

/-! ## Scattered texts -/

theorem Scattered.refl (cs : List Char) : Scattered cs cs := by
  induction cs with
  | nil => exact .nil
  | cons c cs ih => exact .char c ih

theorem scattered_blanks (h : ∀ c ∈ cs, Text.isBlank c = true) : Scattered [] cs := by
  induction cs with
  | nil => exact .nil
  | cons c cs ih =>
    exact .blank (h c List.mem_cons_self) (ih fun d hd => h d (List.mem_cons_of_mem _ hd))

theorem Scattered.append {body' : List Char} (h : Scattered body cs) (h' : Scattered body' ds) :
    Scattered (body ++ body') (cs ++ ds) := by
  induction h with
  | nil => exact h'
  | char c _ ih => exact .char c ih
  | blank hc _ ih => exact .blank hc ih
  | escape _ ih => exact .escape ih

/-- Nothing but the base64 text is left of a scattered one without its breaks. -/
theorem Scattered.filter_unescapeLines (h : Scattered body cs) (hbody : ∀ c ∈ body, IsBase64 c) :
    (unescapeLines cs).filter (fun c => !Text.isBlank c) = body := by
  induction h with
  | nil => rfl
  | @char c body cs _ ih =>
    have hc := hbody c List.mem_cons_self
    rw [← List.singleton_append, unescapeLines_append (by simpa using hc.ne_backslash.symm),
      List.singleton_append, List.filter_cons_of_pos (by rw [hc.not_blank]; rfl),
      ih fun d hd => hbody d (List.mem_cons_of_mem _ hd)]
  | @blank c hc body cs _ ih =>
    have hslash : '\\' ∉ [c] := backslash_not_blank (by simpa using hc)
    rw [← List.singleton_append, unescapeLines_append hslash, List.singleton_append,
      List.filter_cons_of_neg (by rw [hc]; decide), ih hbody]
  | escape _ ih => exact ih hbody

theorem normalizeChars_scattered (h : Scattered body cs) (hbody : ∀ c ∈ body, IsBase64 c) :
    normalizeChars cs = envelope (Crypto.chunks 64 body) := by
  have hfilter : (Text.trim (unescapeLines cs)).filter (fun c => !Text.isBlank c) = body :=
    (Text.filter_trim _).trans (h.filter_unescapeLines hbody)
  -- a text without dashes is in no envelope
  have hdash : '-' ∉ Text.trim (unescapeLines cs) := by
    intro hmem
    have hbase : '-' ∈ body := hfilter ▸ List.mem_filter.mpr ⟨hmem, rfl⟩
    exact (hbody '-' hbase).ne_dash rfl
  have hopening : ¬ "-----BEGIN".toList.isPrefixOf (Text.trim (unescapeLines cs)) = true := by
    intro hprefix
    refine hdash ((List.isPrefixOf_iff_prefix.mp hprefix).subset ?_)
    decide +kernel
  rw [normalizeChars, if_neg hopening, hfilter, wrapBase64_eq]

/-! ## Whole envelopes -/

theorem tidy_envelope (lines : List (List Char)) : Text.Tidy (envelope lines) := by
  have hfirst : Text.Tidy firstLine := by decide +kernel
  have hlast : Text.Tidy lastLine := by decide +kernel
  exact envelope_eq lines ▸ hfirst.append hlast _

theorem backslash_not_envelope (hlines : ∀ c ∈ lines.flatten, IsBase64 c) :
    '\\' ∉ envelope lines := by
  have hfirst : '\\' ∉ firstLine := by decide +kernel
  have hlast : '\\' ∉ lastLine := by decide +kernel
  rw [envelope_eq, List.mem_append, List.mem_append, List.mem_cons, List.mem_flatMap]
  rintro ((hmem | hmem | ⟨line, hline, hmem⟩) | hmem)
  · exact hfirst hmem
  · cases hmem
  · rcases List.mem_append.mp hmem with hmem | hmem
    · exact (hlines _ (List.mem_flatten.mpr ⟨line, hline, hmem⟩)).ne_backslash rfl
    · cases List.mem_singleton.mp hmem
  · exact hlast hmem

theorem normalizeChars_envelope (hbefore : ∀ c ∈ before, Text.isBlank c = true)
    (hafter : ∀ c ∈ after, Text.isBlank c = true)
    (h : unescapeLines cs = before ++ envelope lines ++ after) :
    normalizeChars cs = envelope lines := by
  have htrim : Text.trim (unescapeLines cs) = envelope lines :=
    h ▸ (tidy_envelope lines).trim_padded hbefore hafter
  have hopening : "-----BEGIN".toList.isPrefixOf (envelope lines) = true := by
    have hfirst : "-----BEGIN".toList <+: firstLine := by decide +kernel
    rw [List.isPrefixOf_iff_prefix, envelope_eq, List.append_assoc]
    exact hfirst.trans (List.prefix_append _ _)
  rw [normalizeChars, htrim, if_pos hopening]

theorem normalizeChars_stored {form : List Char} (hbody : ∀ c ∈ body, IsBase64 c)
    (hform : StoredForm body (Crypto.chunks 64 body) form)
    (hbefore : ∀ c ∈ before, Text.isBlank c = true) (hafter : ∀ c ∈ after, Text.isBlank c = true) :
    normalizeChars (before ++ form ++ after) = envelope (Crypto.chunks 64 body) := by
  have hclean := unescapeLines_eq_self (backslash_not_blank hafter)
  have hslash : '\\' ∉ envelope (Crypto.chunks 64 body) := by
    refine backslash_not_envelope fun c hc => hbody c ?_
    rwa [(lines_chunks (by decide) body).flatten] at hc
  cases hform with
  | whole =>
    refine normalizeChars_envelope hbefore hafter ?_
    rw [List.append_assoc, unescapeLines_append (backslash_not_blank hbefore),
      unescapeLines_append hslash, hclean]
  | escaped =>
    refine normalizeChars_envelope hbefore hafter ?_
    rw [List.append_assoc, List.append_assoc, unescapeLines_append (backslash_not_blank hbefore),
      unescapeLines_escapeLines hslash, hclean]
  | bare hscattered =>
    have hpadded := ((scattered_blanks hbefore).append hscattered).append (scattered_blanks hafter)
    rw [List.nil_append, List.append_nil] at hpadded
    exact normalizeChars_scattered hpadded hbody

end

/-- A base64 text is broken into lines of 64 characters in one way, and whatever form a public key with this
text is stored in, it is brought into the envelope around these lines and read as the same key. -/
theorem stored_forms_agree {body : List Char} (hbody : ∀ c ∈ body, IsBase64 c) :
    ∃ lines, (∀ ls, Lines 64 body ls ↔ ls = lines) ∧
      ∀ raw, IsStored body lines raw → normalize raw = String.ofList (envelope lines) ∧
        PublicKey.ofStored raw = PublicKey.ofStored (String.ofList (envelope lines)) := by
  have hlines : Lines 64 body (Crypto.chunks 64 body) := lines_chunks (by decide) body
  have hnormalize : ∀ raw, IsStored body (Crypto.chunks 64 body) raw →
      normalize raw = String.ofList (envelope (Crypto.chunks 64 body)) := by
    rintro raw ⟨before, form, after, hraw, hform, hbefore, hafter⟩
    rw [normalize, hraw, normalizeChars_stored hbody hform hbefore hafter]
  have hwhole : IsStored body (Crypto.chunks 64 body)
      (String.ofList (envelope (Crypto.chunks 64 body))) :=
    ⟨[], _, [], by simp, .whole, nofun, nofun⟩
  refine ⟨Crypto.chunks 64 body, fun ls => ⟨fun h => h.unique hlines, fun h => h ▸ hlines⟩,
    fun raw hraw => ⟨hnormalize raw hraw, ?_⟩⟩
  rw [PublicKey.ofStored, PublicKey.ofStored, hnormalize raw hraw, hnormalize _ hwhole]

namespace Sample

/-- The base64 text of a key that is one character longer than a line, with breaks of both kinds. -/
def brokenText : String :=
  String.ofList ([' ', '\t'] ++ (List.replicate 64 'A' ++ ['\\', 'n', ' ', '\\', 'n', '=']) ++ ['\n'])

end Sample

/-- The last character stands on a line of its own. -/
theorem stored_forms_agree_broken :
    (∀ c ∈ List.replicate 64 'A' ++ ['='], IsBase64 c) ∧
    normalize Sample.brokenText = "-----BEGIN PUBLIC KEY-----\n" ++
      String.ofList (List.replicate 64 'A') ++ "\n=\n-----END PUBLIC KEY-----" := by
  have hbody : ∀ c ∈ List.replicate 64 'A' ++ ['='], IsBase64 c := by
    intro c hc
    rcases List.mem_append.mp hc with hc | hc
    · exact List.eq_of_mem_replicate hc ▸ .inl rfl
    · exact List.mem_singleton.mp hc ▸ .inr (.inr (.inr rfl))
  obtain ⟨lines, hlines, hall⟩ := stored_forms_agree hbody
  have hscattered : Scattered (List.replicate 64 'A' ++ ['='])
      (List.replicate 64 'A' ++ ['\\', 'n', ' ', '\\', 'n', '=']) :=
    (Scattered.refl _).append (.escape (.blank rfl (.escape (.char '=' .nil))))
  have hstored : IsStored (List.replicate 64 'A' ++ ['=']) lines Sample.brokenText :=
    ⟨[' ', '\t'], _, ['\n'], String.toList_ofList, .bare hscattered, List.all_eq_true.mp rfl,
      List.all_eq_true.mp rfl⟩
  obtain rfl := (hlines [List.replicate 64 'A', ['=']]).mp ⟨rfl, by simp, by simp⟩
  exact ⟨hbody, (hall _ hstored).1.trans (by decide +kernel)⟩

end LocationRelay.Key
