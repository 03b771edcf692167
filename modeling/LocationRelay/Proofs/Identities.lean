import LocationRelay.Proofs.Checks
import LocationRelay.Proofs.Cutting
import LocationRelay.Proofs.Names

/-! # Reading identities

A text is read as an identity by its grammar: the root word, a user name up to the next dot, and a device id
behind it. The reader ignores blanks around the text, but a device id may end in blanks of its own. So a
device whose id does is read back from its identity as another device.
-/
namespace LocationRelay

/-! ## Names -/

theorem Name.of?_eq_ok {s : String} {n : Name} : Name.of? s = .ok n ↔ n.text = s :=
  ⟨Name.text_of?_eq_ok, fun h => h ▸ Name.of?_text n⟩

theorem isTopicMark_iff {c : Char} : isTopicMark c = true ↔ c = '.' ∨ c = '*' ∨ c = '#' := by
  simp only [isTopicMark, Bool.or_eq_true, beq_iff_eq, or_assoc]

/-- Why a text is no name: it is blank or, if it is not, has one of the marks of topics in it. -/
inductive NameFault : String → NameError → Prop
  | blank {s : String} (hblank : Text.Blank s) : NameFault s .empty
  | marked {s : String} (hfull : ¬ Text.Blank s)
      (hmark : ∃ c ∈ s.toList, c = '.' ∨ c = '*' ∨ c = '#') : NameFault s (.invalidSegment s)

theorem NameFault.not_isName {s : String} {e : NameError} (h : NameFault s e) : ¬ IsName s := by
  intro hname
  cases h with
  | blank hblank => exact hname.1 hblank
  | marked _ hmark =>
    obtain ⟨c, hc, hmark⟩ := hmark
    rw [← isTopicMark_iff, hname.2 c hc] at hmark
    cases hmark

theorem Name.of?_eq_error {s : String} {e : NameError} :
    Name.of? s = .error e ↔ NameFault s e := by
  unfold Name.of?
  split
  · next hblank =>
    constructor
    · intro h
      cases h
      exact .blank hblank
    · intro h
      cases h with
      | blank _ => rfl
      | marked hfull _ => exact absurd hblank hfull
  · next hfull =>
    split
    · next hname =>
      constructor
      · intro h
        cases h
      · intro h
        exact absurd hname h.not_isName
    · next hname =>
      constructor
      · intro h
        cases h
        have hmark : ∃ c ∈ s.toList, isTopicMark c = true := by
          by_contra hplain
          exact hname ⟨hfull, fun c hc => Bool.eq_false_iff.mpr fun h => hplain ⟨c, hc, h⟩⟩
        obtain ⟨c, hc, hmark⟩ := hmark
        exact .marked hfull ⟨c, hc, isTopicMark_iff.mp hmark⟩
      · intro h
        cases h with
        | blank hblank => exact absurd hblank hfull
        | marked _ _ => rfl

namespace Principal

theorem of?_eq (username deviceId : String) : of? username deviceId =
    (Name.of? username).bind fun user => (Name.of? deviceId).bind fun device =>
      .ok ⟨user, device⟩ := rfl

/-- The principal of two texts has these texts for its names. -/
theorem of?_eq_ok {username deviceId : String} {p : Principal} :
    of? username deviceId = .ok p ↔ p.username.text = username ∧ p.deviceId.text = deviceId := by
  obtain ⟨user, device⟩ := p
  simp only [of?_eq, Except.bind_eq_ok, Name.of?_eq_ok, Except.ok.injEq, Principal.mk.injEq]
  constructor
  · rintro ⟨_, hu, _, hd, rfl, rfl⟩
    exact ⟨hu, hd⟩
  · rintro ⟨hu, hd⟩
    exact ⟨user, hu, device, hd, rfl, rfl⟩

/-- The device is looked at only when nothing is wrong with the user. -/
theorem of?_eq_error {username deviceId : String} {e : NameError} :
    of? username deviceId = .error e ↔
      NameFault username e ∨ IsName username ∧ NameFault deviceId e := by
  simp only [of?_eq, Except.bind_eq_error, Name.of?_eq_ok, Name.of?_eq_error, reduceCtorEq, and_false,
    exists_false, or_false]
  constructor
  · rintro (huser | ⟨user, rfl, hdevice⟩)
    · exact .inl huser
    · exact .inr ⟨user.isName, hdevice⟩
  · rintro (huser | ⟨hname, hdevice⟩)
    · exact .inl huser
    · exact .inr ⟨⟨username, hname⟩, rfl, hdevice⟩

/-! ## Texts -/

variable {s : String}

theorem parse?_of_empty (h : Text.trimmed s = "") : parse? s = .error .empty := by
  unfold parse?
  rw [Text.trimmed_eq.mp h]
  rfl

theorem parse?_of_nonempty (h : Text.trimmed s ≠ "") : parse? s =
    match (Text.dropPrefix? "location." (Text.trim s.toList)).bind (Text.splitFirst? '.') with
    | none => .error .invalidFormat
    | some (user, device) => of? (String.ofList user) (String.ofList device) := by
  have hfull : (Text.trim s.toList).isEmpty = false := by
    rw [← Bool.not_eq_true, List.isEmpty_iff]
    exact fun hnil => h (Text.trimmed_eq.mpr hnil)
  exact if_neg (by rw [hfull]; decide)

/-- The user name ends at the first dot after the root word. -/
theorem parse?_of_cut {user device : String} (hdot : '.' ∉ user.toList)
    (h : Text.trimmed s = "location." ++ user ++ "." ++ device) : parse? s = of? user device := by
  have hchars : Text.trim s.toList = "location.".toList ++ (user.toList ++ '.' :: device.toList) := by
    rw [Text.trimmed_eq.mp h]
    simp only [String.toList_append, List.append_assoc]
    rfl
  have hfull : Text.trimmed s ≠ "" := by
    intro hempty
    rw [Text.trimmed_eq.mp hempty] at hchars
    cases hchars
  rw [parse?_of_nonempty hfull, Text.dropPrefix?_eq_some.mpr hchars, Option.bind_some,
    Text.splitFirst?_append hdot]
  dsimp only
  rw [String.ofList_toList, String.ofList_toList]

/-- Whether a text has the form of an identity, whatever its parts are. -/
def HasForm (t : String) : Prop := ∃ rest : String, '.' ∈ rest.toList ∧ t = "location." ++ rest

theorem HasForm.cut {t : String} (h : HasForm t) : ∃ user device : String,
    '.' ∉ user.toList ∧ t = "location." ++ user ++ "." ++ device := by
  obtain ⟨rest, hdot, rfl⟩ := h
  cases hcut : Text.splitFirst? '.' rest.toList with
  | none => exact absurd hdot (Text.splitFirst?_eq_none.mp hcut)
  | some parts =>
    obtain ⟨hrest, hdot⟩ := Text.splitFirst?_eq_some hcut
    refine ⟨String.ofList parts.1, String.ofList parts.2, by rwa [String.toList_ofList], ?_⟩
    apply String.toList_inj.mp
    rw [String.toList_append, hrest]
    simp [String.toList_append]

theorem parse?_of_formless (hfull : Text.trimmed s ≠ "") (hform : ¬ HasForm (Text.trimmed s)) :
    parse? s = .error .invalidFormat := by
  rw [parse?_of_nonempty hfull]
  cases hrest : (Text.dropPrefix? "location." (Text.trim s.toList)).bind (Text.splitFirst? '.') with
  | none => rfl
  | some parts =>
    obtain ⟨rest, hrest, hcut⟩ := Option.bind_eq_some_iff.mp hrest
    obtain ⟨rfl, -⟩ := Text.splitFirst?_eq_some hcut
    have hdot : '.' ∈ parts.1 ++ '.' :: parts.2 := by simp
    refine absurd ⟨String.ofList (parts.1 ++ '.' :: parts.2), ?_, ?_⟩ hform
    · rwa [String.toList_ofList]
    · rw [Text.trimmed_eq, Text.dropPrefix?_eq_some.mp hrest, String.toList_append]
      exact congrArg (_ ++ ·) String.toList_ofList.symm

/-- A text is empty, or it lacks the form of an identity, or it is judged by its user and its device. -/
theorem parse?_cases (s : String) :
    (Text.trimmed s = "" ∧ parse? s = .error .empty) ∨
    (Text.trimmed s ≠ "" ∧ ¬ HasForm (Text.trimmed s) ∧ parse? s = .error .invalidFormat) ∨
    ∃ user device : String, '.' ∉ user.toList ∧
      Text.trimmed s = "location." ++ user ++ "." ++ device ∧ parse? s = of? user device := by
  by_cases hempty : Text.trimmed s = ""
  · exact .inl ⟨hempty, parse?_of_empty hempty⟩
  by_cases hform : HasForm (Text.trimmed s)
  · obtain ⟨user, device, hdot, hcut⟩ := hform.cut
    exact .inr (.inr ⟨user, device, hdot, hcut, parse?_of_cut hdot hcut⟩)
  · exact .inr (.inl ⟨hempty, hform, parse?_of_formless hempty hform⟩)

theorem parse?_eq_ok {p : Principal} : parse? s = .ok p ↔ Text.trimmed s = p.identity.text := by
  constructor
  · intro h
    rcases parse?_cases s with ⟨-, hread⟩ | ⟨-, -, hread⟩ | ⟨user, device, -, hcut, hread⟩
    · cases hread.symm.trans h
    · cases hread.symm.trans h
    · obtain ⟨rfl, rfl⟩ := of?_eq_ok.mp (hread.symm.trans h)
      exact hcut
  · intro h
    rw [parse?_of_cut p.username.dotless h]
    exact of?_eq_ok.mpr ⟨rfl, rfl⟩

/-- Why a text that has been trimmed is no identity. What is wrong with its user is found before what is
wrong with its device. -/
inductive Fault : String → NameError → Prop
  | empty : Fault "" .empty
  | form {t : String} (hfull : t ≠ "") (hform : ¬ HasForm t) : Fault t .invalidFormat
  | user {user device : String} {e : NameError} (hdot : '.' ∉ user.toList) (huser : NameFault user e) :
      Fault ("location." ++ user ++ "." ++ device) e
  | device {user device : String} {e : NameError} (huser : IsName user) (hdevice : NameFault device e) :
      Fault ("location." ++ user ++ "." ++ device) e

theorem parse?_eq_error {e : NameError} : parse? s = .error e ↔ Fault (Text.trimmed s) e := by
  constructor
  · intro h
    rcases parse?_cases s with ⟨hempty, hread⟩ | ⟨hfull, hform, hread⟩ | ⟨user, device, hdot, hcut, hread⟩
    · cases hread.symm.trans h
      rw [hempty]
      exact .empty
    · cases hread.symm.trans h
      exact .form hfull hform
    · rw [hcut]
      rcases of?_eq_error.mp (hread.symm.trans h) with huser | ⟨huser, hdevice⟩
      · exact .user hdot huser
      · exact .device huser hdevice
  · generalize ht : Text.trimmed s = t
    intro h
    cases h with
    | empty => exact parse?_of_empty ht
    | form hfull hform => exact parse?_of_formless (ht ▸ hfull) (ht ▸ hform)
    | user hdot huser =>
      rw [parse?_of_cut hdot ht]
      exact of?_eq_error.mpr (.inl huser)
    | device huser hdevice =>
      rw [parse?_of_cut (Name.dotless ⟨_, huser⟩) ht]
      exact of?_eq_error.mpr (.inr ⟨huser, hdevice⟩)

/-- A text is read as a principal exactly when, but for blanks around it, it is the root word, the user and
the device with dots between them. Every other text is refused, for the first thing that is wrong with it. -/
theorem reads_exactly (s : String) :
    (∀ p, parse? s = .ok p ↔
      Text.trimmed s = "location." ++ p.username.text ++ "." ++ p.deviceId.text) ∧
    ∀ e, parse? s = .error e ↔ Fault (Text.trimmed s) e :=
  ⟨fun _ => parse?_eq_ok, fun _ => parse?_eq_error⟩

/-- The first fault is reported, and what follows the second dot belongs to the device. -/
example : parse? " location.a*.b.c" = .error (.invalidSegment "a*") ∧
    parse? "location.a.b.c " = .error (.invalidSegment "b.c") := by decide

end Principal

/-! ## Reading back -/

theorem isName_trimEnd {s : String} (h : IsName s) : IsName (String.ofList (Text.trimEnd s.toList)) := by
  obtain ⟨hfull, hplain⟩ := h
  constructor
  · rw [Text.Blank, String.toList_ofList]
    exact Text.trimEnd_not_blank hfull
  · intro c hc
    rw [String.toList_ofList] at hc
    exact hplain c (Text.trimEnd_subset _ hc)

def Name.trimEnd (n : Name) : Name where
  text := String.ofList (Text.trimEnd n.text.toList)
  isName := isName_trimEnd n.isName

def EndsBlank (s : String) : Prop := ∃ c ∈ s.toList.getLast?, Text.isBlank c = true

theorem Name.trimEnd_eq_self {n : Name} : n.trimEnd = n ↔ ¬ EndsBlank n.text := by
  obtain ⟨s, hs⟩ := n
  rw [trimEnd, Name.mk.injEq, ← String.toList_inj, String.toList_ofList, Text.trimEnd_eq_self, EndsBlank]
  constructor
  · rintro h ⟨c, hc, hblank⟩
    rw [h c hc] at hblank
    cases hblank
  · intro h c hc
    exact Bool.eq_false_iff.mpr fun hblank => h ⟨c, hc, hblank⟩

namespace Principal

def readBack (p : Principal) : Principal := ⟨p.username, p.deviceId.trimEnd⟩

theorem toList_identity (p : Principal) : p.identity.text.toList =
    'l' :: ("ocation.".toList ++ p.username.text.toList ++ ['.']) ++ p.deviceId.text.toList := by
  simp [identity, topicRoot, String.toList_append]

/-- An identity begins with a letter, so that only the blanks at the end of the device id are at its ends. -/
theorem trimmed_identity (p : Principal) : Text.trimmed p.identity.text = p.readBack.identity.text := by
  have hdevice : p.readBack.deviceId.text.toList = Text.trimEnd p.deviceId.text.toList :=
    String.toList_ofList
  rw [Text.trimmed_eq, toList_identity, toList_identity, hdevice, Text.trim, List.cons_append,
    Text.trimStart_of_not_blank (by decide), ← List.cons_append, Text.trimEnd_append _ p.deviceId.isName.1]
  rfl

theorem parse?_identity (p : Principal) : parse? p.identity.text = .ok p.readBack :=
  parse?_eq_ok.mpr p.trimmed_identity

theorem readBack_eq_self {p : Principal} : p.readBack = p ↔ ¬ EndsBlank p.deviceId.text := by
  obtain ⟨user, device⟩ := p
  simp only [readBack, Principal.mk.injEq, true_and, Name.trimEnd_eq_self]

theorem readBack_inj {p q : Principal} : p.readBack = q.readBack ↔
    p.username = q.username ∧ p.deviceId.trimEnd = q.deviceId.trimEnd := by
  simp only [readBack, Principal.mk.injEq]

end Principal

theorem Identity.parse?_identity (p : Principal) :
    Identity.parse? p.identity.text = .ok p.readBack.identity := by
  rw [Identity.parse?, p.parse?_identity]
  rfl

/-- The identity of a device is read back without the blanks at the end of the device id. So a device is read
back as itself exactly when its id does not end in a blank, and two devices are read back as the same one
exactly when they are of one user and their ids are the same but for blanks at the end. -/
theorem identity_reads_back (p : Principal) :
    Principal.parse? p.identity.text = .ok p.readBack ∧
    Identity.parse? p.identity.text = .ok p.readBack.identity ∧
    (Principal.parse? p.identity.text = .ok p ∧ Identity.parse? p.identity.text = .ok p.identity ↔
      ¬ EndsBlank p.deviceId.text) ∧
    ∀ q : Principal, Identity.parse? p.identity.text = Identity.parse? q.identity.text ↔
      p.username = q.username ∧ p.deviceId.trimEnd = q.deviceId.trimEnd := by
  simp only [Principal.parse?_identity, Identity.parse?_identity, Except.ok.injEq, true_and]
  have hinjective : ∀ {q r : Principal}, q.identity = r.identity ↔ q = r :=
    ⟨Principal.identity_injective, congrArg Principal.identity⟩
  simp only [hinjective, Principal.readBack_eq_self, and_self, Principal.readBack_inj, implies_true]

/-- Two devices of one user whose identities are read back as the same one. -/
theorem padded_device_lost : ∃ p q : Principal, p ≠ q ∧ p.identity.text = "location.alice.phoneA " ∧
    Principal.parse? p.identity.text = .ok q ∧ Principal.parse? p.identity.text ≠ .ok p ∧
    Identity.parse? p.identity.text = Identity.parse? q.identity.text :=
  ⟨⟨⟨"alice", by decide⟩, ⟨"phoneA ", by decide⟩⟩, ⟨⟨"alice", by decide⟩, ⟨"phoneA", by decide⟩⟩,
    by decide, by decide, by decide, by decide, by decide⟩

end LocationRelay
