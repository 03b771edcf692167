import LocationRelay.Principal
import LocationRelay.Topic.Pattern

/-! # Whom a routing key reaches

Names are free of dots and of wildcards. So an identity can be taken apart again, and the pattern of a
principal's queue admits the keys of that user followed by one more word, and no others.
-/
namespace LocationRelay

namespace Topic

theorem words_of_dotless {s : String} (h : '.' ∉ s.toList) : words s = [s.toList] :=
  List.splitOn_eq_singleton h

theorem words_dot {s : String} (h : '.' ∉ s.toList) (t : String) :
    words (s ++ "." ++ t) = s.toList :: words t := by
  have hchars : (s ++ "." ++ t).toList = s.toList ++ '.' :: t.toList := by
    simp [String.toList_append]
  rw [words, hchars, List.splitOn_append_cons_self_of_not_mem h]
  rfl

theorem dotless_of_mem_splitOn {cs w : List Char} (hw : w ∈ cs.splitOn '.') : '.' ∉ w := by
  induction cs generalizing w with
  | nil =>
    rw [List.splitOn_nil, List.mem_singleton] at hw
    exact hw ▸ List.not_mem_nil
  | cons c cs ih =>
    rw [List.splitOn_cons_eq_if_modifyHead] at hw
    split at hw
    · rcases List.mem_cons.mp hw with rfl | hw
      · exact List.not_mem_nil
      · exact ih hw
    · next hc =>
      cases hs : cs.splitOn '.' with
      | nil => exact absurd hs (List.splitOn_ne_nil _ _)
      | cons v vs =>
        rw [hs, List.modifyHead_cons] at hw
        rcases List.mem_cons.mp hw with rfl | hw
        · refine List.not_mem_cons_of_ne_of_not_mem ?_ (ih (hs ▸ List.mem_cons_self))
          rintro rfl
          exact hc (beq_self_eq_true _)
        · exact ih (hs ▸ List.mem_cons_of_mem _ hw)

/-- A text of three words is those words with dots between them. -/
theorem eq_of_words {s : String} {a b c : Word} (h : words s = [a, b, c]) :
    s = String.ofList a ++ "." ++ String.ofList b ++ "." ++ String.ofList c ∧ '.' ∉ c := by
  have hjoin : ['.'].intercalate (words s) = s.toList := List.intercalate_splitOn '.'
  have hmem : c ∈ s.toList.splitOn '.' := by
    change c ∈ words s
    rw [h]
    simp
  refine ⟨String.toList_inj.mp ?_, dotless_of_mem_splitOn hmem⟩
  rw [← hjoin, h]
  simp [String.toList_append]

theorem leave_plain {word : Word} (h : word ≠ ['*'] ∧ word ≠ ['#']) (key : List Word) :
    leave [key] word = match key with
      | [] => []
      | w :: rest => if word = w then [rest] else [] := by
  cases key with
  | nil => simp [leave, h.2]
  | cons w rest =>
    simp only [leave, if_neg h.2, h.1, false_or]
    by_cases hw : word = w
    · rw [if_pos hw]
      exact List.filterMap_cons_some (if_pos hw)
    · rw [if_neg hw]
      exact List.filterMap_cons_none (if_neg hw)

/-- Two plain words and a star admit the keys of three words that begin with those two. -/
theorem matchesWords_star {a b : Word} (ha : a ≠ ['*'] ∧ a ≠ ['#']) (hb : b ≠ ['*'] ∧ b ≠ ['#'])
    (key : List Word) : matchesWords [a, b, ['*']] key = true ↔ ∃ w, key = [a, b, w] := by
  unfold matchesWords
  simp only [List.foldl_cons, List.foldl_nil, leave_plain ha]
  cases key with
  | nil => simp [leave, hb]
  | cons v key =>
    by_cases hv : a = v
    · simp only [hv, if_true, leave_plain hb]
      cases key with
      | nil => simp [leave]
      | cons w key =>
        by_cases hw : b = w
        · cases key with
          | nil => simp [leave, hw]
          | cons x key => cases key <;> simp [leave, hw]
        · simp [leave, hw, Ne.symm hw]
    · simp [leave, hb, hv, Ne.symm hv]

end Topic

theorem Name.dotless (n : Name) : '.' ∉ n.text.toList := by
  intro h
  have hmark := n.isName.2 '.' h
  cases hmark

theorem Name.plain (n : Name) : n.text.toList ≠ ['*'] ∧ n.text.toList ≠ ['#'] := by
  constructor <;> intro h
  · have hmark := n.isName.2 '*' (by rw [h]; exact List.mem_cons_self)
    cases hmark
  · have hmark := n.isName.2 '#' (by rw [h]; exact List.mem_cons_self)
    cases hmark

theorem Name.text_inj {n m : Name} : n.text = m.text ↔ n = m := by
  cases n
  cases m
  rw [Name.mk.injEq]

namespace Principal

theorem words_topic {u w : String} (hu : '.' ∉ u.toList) (hw : '.' ∉ w.toList) :
    Topic.words (topicRoot ++ "." ++ u ++ "." ++ w) = [topicRoot.toList, u.toList, w.toList] := by
  have hassoc : topicRoot ++ "." ++ u ++ "." ++ w = topicRoot ++ "." ++ (u ++ "." ++ w) := by
    simp only [String.append_assoc]
  rw [hassoc, Topic.words_dot (by decide), Topic.words_dot hu, Topic.words_of_dotless hw]

theorem words_identity (p : Principal) : Topic.words p.identity.text =
    [topicRoot.toList, p.username.text.toList, p.deviceId.text.toList] :=
  words_topic p.username.dotless p.deviceId.dotless

theorem words_bindingPattern (p : Principal) :
    Topic.words p.bindingPattern = [topicRoot.toList, p.username.text.toList, ['*']] := by
  have hstar : p.bindingPattern = topicRoot ++ "." ++ p.username.text ++ "." ++ "*" := by
    simp only [bindingPattern, String.append_assoc]
    rfl
  rw [hstar, words_topic p.username.dotless (by decide)]
  rfl

theorem identity_injective {p q : Principal} (h : p.identity = q.identity) : p = q := by
  have hwords := p.words_identity
  rw [h, q.words_identity] at hwords
  simp only [List.cons.injEq, true_and, and_true, String.toList_inj, Name.text_inj] at hwords
  cases p
  cases q
  obtain ⟨rfl, rfl⟩ := hwords
  rfl

/-- The keys that reach a principal's queue. -/
theorem accepts_iff (p : Principal) (key : String) : Topic.accepts p.bindingPattern key = true ↔
    ∃ w : String, '.' ∉ w.toList ∧ key = topicRoot ++ "." ++ p.username.text ++ "." ++ w := by
  rw [Topic.accepts, words_bindingPattern, Topic.matchesWords_star (by decide) p.username.plain]
  constructor
  · rintro ⟨w, hw⟩
    obtain ⟨hkey, hdotless⟩ := Topic.eq_of_words hw
    refine ⟨String.ofList w, by rwa [String.toList_ofList], ?_⟩
    rw [hkey, String.ofList_toList, String.ofList_toList]
  · rintro ⟨w, hdotless, rfl⟩
    exact ⟨w.toList, words_topic p.username.dotless hdotless⟩

/-- A key reaches the queues of one user only. -/
theorem username_of_accepts {p q : Principal} {key : String}
    (hp : Topic.accepts p.bindingPattern key = true)
    (hq : Topic.accepts q.bindingPattern key = true) : q.username = p.username := by
  obtain ⟨w, hw, rfl⟩ := (p.accepts_iff key).mp hp
  obtain ⟨v, hv, he⟩ := (q.accepts_iff _).mp hq
  have hwords := words_topic p.username.dotless hw
  rw [he, words_topic q.username.dotless hv] at hwords
  simp only [List.cons.injEq, true_and, String.toList_inj, Name.text_inj] at hwords
  exact hwords.1

/-- Which queues a key reaches that addresses a user or one of the user's devices. -/
theorem accepts_addressed {u key : String} (hkey : broadcastKey? u = .ok key ∨
    ∃ q : Principal, q.username.text = u ∧ q.routingKey = key) (p : Principal) :
    Topic.accepts p.bindingPattern key = true ↔ p.username.text = u := by
  have haddressed : ∃ q : Principal, q.username.text = u ∧ Topic.accepts q.bindingPattern key = true := by
    rcases hkey with hkey | ⟨q, hq, rfl⟩
    · unfold broadcastKey? at hkey
      cases hname : Name.of? u with
      | error e =>
        rw [hname] at hkey
        cases hkey
      | ok user =>
        rw [hname] at hkey
        cases hkey
        -- The star at the end of the key is a word like any other to the pattern of a device.
        refine ⟨⟨user, user⟩, Name.text_of?_eq_ok hname, ?_⟩
        refine (accepts_iff _ _).mpr ⟨"*", by decide, ?_⟩
        simp only [String.append_assoc]
        rfl
    · exact ⟨q, hq, (q.accepts_iff _).mpr ⟨q.deviceId.text, q.deviceId.dotless, rfl⟩⟩
  obtain ⟨q, rfl, hq⟩ := haddressed
  constructor
  · intro hp
    rw [username_of_accepts hq hp]
  · intro hname
    rw [bindingPattern, hname]
    exact hq

/-- No two devices share an identity, and the queues of a user get what is addressed to that user, to one of
the user's devices or to any other word without dots in their place, and nothing else. -/
theorem users_apart (p : Principal) :
    (∀ q : Principal, p.identity = q.identity ↔ p = q) ∧
    (∀ key : String, Topic.accepts p.bindingPattern key = true ↔
      ∃ w : String, '.' ∉ w.toList ∧ key = "location." ++ p.username.text ++ "." ++ w) ∧
    (∀ q : Principal, Topic.accepts p.bindingPattern q.routingKey = true ↔ p.username = q.username) ∧
    ∀ username key, broadcastKey? username = .ok key →
      (Topic.accepts p.bindingPattern key = true ↔ username = p.username.text) := by
  refine ⟨fun q => ⟨identity_injective, congrArg identity⟩, p.accepts_iff, fun q => ?_,
    fun username key hkey => ?_⟩
  · rw [accepts_addressed (.inr ⟨q, rfl, rfl⟩), Name.text_inj]
  · rw [accepts_addressed (.inl hkey), eq_comm]

/-- A user name that differs from another by a blank at its end only is addressed apart from it. -/
theorem users_apart_padded : ∃ p : Principal, p.username.text = "alice" ∧
    broadcastKey? "alice" = .ok "location.alice.*" ∧
    Topic.accepts p.bindingPattern "location.alice.*" = true ∧
    broadcastKey? "alice " = .ok "location.alice .*" ∧
    ¬ Topic.accepts p.bindingPattern "location.alice .*" = true := by
  obtain ⟨-, -, -, haddressed⟩ := users_apart ⟨⟨"alice", by decide⟩, ⟨"phoneA", by decide⟩⟩
  have hown : broadcastKey? "alice" = .ok "location.alice.*" := rfl
  have hother : broadcastKey? "alice " = .ok "location.alice .*" := rfl
  refine ⟨⟨⟨"alice", by decide⟩, ⟨"phoneA", by decide⟩⟩, rfl, hown, (haddressed _ _ hown).mpr rfl,
    hother, ?_⟩
  rw [haddressed _ _ hother]
  decide

end Principal

end LocationRelay
