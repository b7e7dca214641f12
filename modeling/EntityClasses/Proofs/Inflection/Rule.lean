import EntityClasses.Proofs.Inflection.Ending
import EntityClasses.Proofs.Text.Clear
import Mathlib.Data.List.TakeWhile

/-!
# What a rule does to a word

A rule turns a word into what it keeps of it and the text it adds. All that plural and singular can
be is then one of four outcomes: the word is uncountable, it is in the list of irregular words, the
first rule that applies has turned it, or no rule applies.
-/
namespace EntityClasses.Inflection

/-! ## One rule -/

theorem wordRun_subset (s : List Char) : wordRun s ⊆ s := by
  intro c hc
  have hc := List.mem_reverse.1 hc
  exact List.mem_reverse.1 ((List.takeWhile_sublist _).subset hc)

namespace Reach

/-- What may stand in front of the kept part of a word, and behind the dropped one. -/
def Allows : Reach → List Char → List Char → Prop
  | run, _, rest => rest = []
  | ending, _, rest => rest = []
  | whole, before, rest => before = [] ∧ rest = []
  | opening, before, _ => before = []

/-- What is kept of the characters in front of the kept part. -/
def front : Reach → List Char → List Char
  | run, before => wordRun before
  | ending, _ => []
  | whole, _ => []
  | opening, _ => []

theorem front_subset (reach : Reach) (before : List Char) : reach.front before ⊆ before := by
  cases reach with
  | run => exact wordRun_subset before
  | ending | whole | opening => exact List.nil_subset before

theorem Allows.rest_eq_nil {reach : Reach} {before rest : List Char}
    (h : reach.Allows before rest) (hreach : reach ≠ opening) : rest = [] := by
  cases reach with
  | run => exact h
  | ending => exact h
  | whole => exact h.2
  | opening => exact absurd rfl hreach

end Reach

namespace Rule

/-- A rule turns one word into another. -/
inductive Turns (r : Rule) : List Char → List Char → Prop
  | intro {kept dropped : Pattern} {before text ending rest : List Char} (hkept : kept ∈ r.kept)
      (hdropped : dropped ∈ r.dropped) (htext : kept.fits text = true)
      (hending : dropped.fits ending = true) (hreach : r.reach.Allows before rest) :
      Turns r (before ++ text ++ ending ++ rest) (r.reach.front before ++ text ++ r.added.toList)

theorem keep?_eq_some_iff {reach : Reach} {kept dropped : Pattern} {w s : List Char} :
    keep? reach kept dropped w = some s ↔ ∃ before text ending rest,
      w = before ++ text ++ ending ++ rest ∧ kept.fits text = true ∧ dropped.fits ending = true ∧
        reach.Allows before rest ∧ s = reach.front before ++ text := by
  cases reach with
  | opening =>
      simp only [keep?, Option.bind_eq_bind, Option.bind_eq_some_iff, Option.pure_def,
        Option.some.injEq, Prod.exists, Pattern.cutStart?_eq_some_iff, Reach.Allows, Reach.front]
      constructor
      · rintro ⟨text, r, ⟨rfl, htext⟩, ending, rest, ⟨rfl, hending⟩, rfl⟩
        exact ⟨[], text, ending, rest, by simp, htext, hending, rfl, rfl⟩
      · rintro ⟨before, text, ending, rest, rfl, htext, hending, rfl, rfl⟩
        exact ⟨_, ending ++ rest, ⟨by simp, htext⟩, ending, rest, ⟨rfl, hending⟩, rfl⟩
  | run | ending =>
      simp only [keep?, Option.bind_eq_bind, Option.bind_eq_some_iff, Option.pure_def,
        Option.some.injEq, Prod.exists, Pattern.cutEnd?_eq_some_iff, Reach.Allows, Reach.front]
      constructor
      · rintro ⟨f, ending, ⟨rfl, hending⟩, before, text, ⟨rfl, htext⟩, rfl⟩
        exact ⟨before, text, ending, [], (List.append_nil _).symm, htext, hending, rfl, rfl⟩
      · rintro ⟨before, text, ending, rest, rfl, htext, hending, rfl, rfl⟩
        exact ⟨_, ending, ⟨List.append_nil _, hending⟩, before, _, ⟨rfl, htext⟩, rfl⟩
  | whole =>
      simp only [keep?, Option.bind_eq_bind, Option.bind_eq_some_iff, Option.pure_def,
        Prod.exists, Pattern.cutEnd?_eq_some_iff, Reach.Allows, Reach.front,
        Option.ite_none_right_eq_some, List.isEmpty_iff, Option.some.injEq]
      constructor
      · rintro ⟨f, ending, ⟨rfl, hending⟩, before, text, ⟨rfl, htext⟩, rfl, rfl⟩
        exact ⟨[], text, ending, [], (List.append_nil _).symm, htext, hending, ⟨rfl, rfl⟩, rfl⟩
      · rintro ⟨before, text, ending, rest, rfl, htext, hending, ⟨rfl, rfl⟩, rfl⟩
        exact ⟨_, ending, ⟨List.append_nil _, hending⟩, [], _, ⟨rfl, htext⟩, rfl, rfl⟩

theorem longest_mem {l : List (List Char)} {s : List Char} (h : longest l = some s) : s ∈ l := by
  induction l generalizing s with
  | nil => cases h
  | cons a rest ih =>
      unfold longest at h
      cases hr : longest rest with
      | none =>
          rw [hr] at h
          cases h
          exact List.mem_cons_self
      | some t =>
          rw [hr] at h
          simp only at h
          split_ifs at h <;> cases h
          · exact List.mem_cons_of_mem a (ih hr)
          · exact List.mem_cons_self

theorem longest_eq_none_iff {l : List (List Char)} : longest l = none ↔ l = [] := by
  cases l with
  | nil => exact iff_of_true rfl rfl
  | cons s rest =>
      refine iff_of_false (fun h => ?_) (List.cons_ne_nil s rest)
      unfold longest at h
      split at h
      · split_ifs at h
      · cases h

variable {r : Rule} {w s : List Char}

theorem turns_of_answer? (h : r.answer? w = some s) : r.Turns w s := by
  obtain ⟨t, ht, rfl⟩ := Option.map_eq_some_iff.1 h
  obtain ⟨dropped, hdropped, ht⟩ := List.mem_flatMap.1 (longest_mem ht)
  obtain ⟨kept, hkept, ht⟩ := List.mem_filterMap.1 ht
  obtain ⟨before, text, ending, rest, rfl, htext, hending, hreach, rfl⟩ := keep?_eq_some_iff.1 ht
  exact .intro hkept hdropped htext hending hreach

theorem answer?_eq_none_iff : r.answer? w = none ↔ ∀ s, ¬ r.Turns w s := by
  constructor
  · rintro h s ⟨hkept, hdropped, htext, hending, hreach⟩
    rw [answer?, Option.map_eq_none_iff, longest_eq_none_iff, List.flatMap_eq_nil_iff] at h
    have hkeep := List.filterMap_eq_nil_iff.1 (h _ hdropped) _ hkept
    rw [keep?_eq_some_iff.2 ⟨_, _, _, _, rfl, htext, hending, hreach, rfl⟩] at hkeep
    cases hkeep
  · intro h
    cases hanswer : r.answer? w with
    | none => rfl
    | some s => exact absurd (turns_of_answer? hanswer) (h s)

/-- A rule that can turn a word in one way only. -/
theorem answer?_of_turns (h : r.Turns w s) (honly : ∀ t, r.Turns w t → t = s) :
    r.answer? w = some s := by
  cases hanswer : r.answer? w with
  | none => exact absurd h (answer?_eq_none_iff.1 hanswer s)
  | some t => rw [honly t (turns_of_answer? hanswer)]

/-- A rule that applies to a word leaves it as it is. -/
def Idle (r : Rule) (w : List Char) : Prop :=
  ∀ s, r.Turns w s → s = w

/-- Where the rule looks for its pattern. -/
theorem Turns.ends (h : r.Turns w s) (hreach : r.reach ≠ .opening) :
    ∃ kept ∈ r.kept, ∃ dropped ∈ r.dropped, Pattern.Ends (kept ++ dropped) w := by
  obtain @⟨kept, dropped, before, text, ending, rest, hkept, hdropped, htext, hending, hallows⟩ := h
  refine ⟨kept, hkept, dropped, hdropped, Pattern.ends_append_iff.2 ?_⟩
  refine ⟨before, text, ending, ?_, htext, hending⟩
  rw [hallows.rest_eq_nil hreach, List.append_nil]

end Rule

/-! ## Runs of word characters -/

theorem wordRun_eq_self {s : List Char} (h : ∀ c ∈ s, isWordCharacter c = true) : wordRun s = s := by
  have hrun : s.reverse.takeWhile isWordCharacter = s.reverse :=
    List.takeWhile_eq_self_iff.2 fun c hc => h c (List.mem_reverse.1 hc)
  rw [wordRun, hrun, List.reverse_reverse]

theorem not_word_of_wordRun_eq_nil {s : List Char} (h : wordRun s = []) {c : Char}
    (hc : s.reverse.head? = some c) : isWordCharacter c = false := by
  obtain ⟨r, hr⟩ := List.head?_eq_some_iff.1 hc
  by_contra hword
  rw [wordRun, List.reverse_eq_nil_iff, hr,
    List.takeWhile_cons_of_pos (Bool.eq_true_of_not_eq_false hword)] at h
  cases h

theorem isWordCharacter_of_isLower {c : Char} (h : c.isLower = true) : isWordCharacter c = true :=
  of_ascii (P := fun c => c.isLower = true → isWordCharacter c = true) (by decide +kernel)
    (toNat_lt_of_isLower h) h

/-! ## Rules for endings -/

namespace Rule

/-- The endings which the rule is about, kept and dropped part together. -/
def patterns (r : Rule) : List Pattern :=
  r.kept.flatMap fun kept => r.dropped.map (kept ++ ·)

/-- Where a word ends in the pattern, the rule does not apply or puts back what it drops. -/
def spares (r : Rule) (p : Pattern) : Bool :=
  r.kept.all fun kept => r.dropped.all fun dropped =>
    dropped = Pattern.ofText r.added || p.clashes (kept ++ dropped)

variable {r : Rule} {w s : List Char}

theorem Turns.split (h : r.Turns w s) (hreach : r.reach = .run)
    (hw : ∀ c ∈ w, isWordCharacter c = true) : ∃ kept ∈ r.kept, ∃ dropped ∈ r.dropped,
      ∃ before text ending, w = before ++ text ++ ending ∧ kept.fits text = true ∧
        dropped.fits ending = true ∧ s = before ++ text ++ r.added.toList := by
  obtain @⟨kept, dropped, before, text, ending, rest, hkept, hdropped, htext, hending, hallows⟩ := h
  have hrest := hallows.rest_eq_nil (by rw [hreach]; exact Reach.noConfusion)
  rw [List.append_assoc, List.append_assoc, List.forall_mem_append] at hw
  refine ⟨kept, hkept, dropped, hdropped, before, text, ending, ?_, htext, hending, ?_⟩
  · rw [hrest, List.append_nil]
  · rw [hreach, Reach.front, wordRun_eq_self hw.1]

theorem turns_of_ends (hreach : r.reach = .run ∨ r.reach = .ending) {p : Pattern}
    (hp : p ∈ r.patterns) (h : p.Ends w) : ∃ s, r.Turns w s := by
  obtain ⟨kept, hkept, hp⟩ := List.mem_flatMap.1 hp
  obtain ⟨dropped, hdropped, rfl⟩ := List.mem_map.1 hp
  obtain ⟨before, text, ending, rfl, htext, hending⟩ := Pattern.ends_append_iff.1 h
  have hallows : r.reach.Allows before [] := by
    rcases hreach with hreach | hreach
    · rw [hreach]
      rfl
    · rw [hreach]
      rfl
  have hturns := Turns.intro hkept hdropped htext hending hallows
  rw [List.append_nil] at hturns
  exact ⟨_, hturns⟩

theorem idle_of_spares {p : Pattern} (h : r.spares p = true) (hreach : r.reach = .run)
    (hp : p.Ends w) (hw : ∀ c ∈ w, isWordCharacter c = true) : r.Idle w := by
  intro s hs
  obtain ⟨kept, hkept, dropped, hdropped, before, text, ending, rfl, htext, hending, rfl⟩ :=
    hs.split hreach hw
  have h := List.all_eq_true.1 (List.all_eq_true.1 h kept hkept) dropped hdropped
  rcases Bool.or_eq_true_iff.1 h with hsame | hclash
  · rw [of_decide_eq_true hsame, Pattern.fits_ofText_iff] at hending
    rw [hending]
  · exact absurd (Pattern.ends_append_iff.2 ⟨before, text, ending, rfl, htext, hending⟩)
      (Pattern.not_ends_of_clashes hclash hp)

/-- Rules that do not look at the characters in front keep text they name. -/
theorem Turns.of_not_run (h : r.Turns w s) (hreach : r.reach ≠ .run) :
    ∃ kept ∈ r.kept, ∃ text, kept.fits text = true ∧ s = text ++ r.added.toList := by
  obtain ⟨hkept, -, htext, -, -⟩ := h
  refine ⟨_, hkept, _, htext, ?_⟩
  cases hr : r.reach with
  | run => exact absurd hr hreach
  | ending => rfl
  | whole => rfl
  | opening => rfl

/-- All characters come from the word and from what is added. -/
theorem Turns.subset (h : r.Turns w s) : s ⊆ w ++ r.added.toList := by
  obtain @⟨kept, dropped, before, text, ending, rest, -, -, -, -, -⟩ := h
  have hfront := r.reach.front_subset before
  intro c hc
  simp only [List.mem_append] at hc ⊢
  rcases hc with (hc | hc) | hc
  · exact .inl (.inl (.inl (.inl (hfront hc))))
  · exact .inl (.inl (.inl (.inr hc)))
  · exact .inr hc

theorem Turns.words (h : r.Turns w s) (hw : ∀ c ∈ w, isWordCharacter c = true)
    (hadded : ∀ c ∈ r.added.toList, isWordCharacter c = true) :
    ∀ c ∈ s, isWordCharacter c = true :=
  fun c hc => List.forall_mem_append.2 ⟨hw, hadded⟩ c (h.subset hc)

end Rule

/-! ## Tables of rules -/

/-- The first rule that applies decides. -/
theorem findSome?_eq_some {rules : List Rule} {w s : List Char}
    (h : rules.findSome? (·.answer? w) = some s) : ∃ earlier r later,
      rules = earlier ++ r :: later ∧ (∀ q ∈ earlier, ∀ t, ¬ q.Turns w t) ∧ r.Turns w s := by
  obtain ⟨earlier, r, later, rfl, hr, hearlier⟩ := List.findSome?_eq_some_iff.1 h
  exact ⟨earlier, r, later, rfl, fun q hq => Rule.answer?_eq_none_iff.1 (hearlier q hq),
    Rule.turns_of_answer? hr⟩

theorem findSome?_eq_none_iff {rules : List Rule} {w : List Char} :
    rules.findSome? (·.answer? w) = none ↔ ∀ r ∈ rules, ∀ s, ¬ r.Turns w s := by
  simp only [List.findSome?_eq_none_iff, Rule.answer?_eq_none_iff]

theorem findSome?_append_cons {earlier later : List Rule} {r : Rule} {w s : List Char}
    (hearlier : ∀ q ∈ earlier, ∀ t, ¬ q.Turns w t) (h : r.Turns w s)
    (honly : ∀ t, r.Turns w t → t = s) :
    (earlier ++ r :: later).findSome? (·.answer? w) = some s := by
  rw [List.findSome?_append, findSome?_eq_none_iff.2 hearlier, List.findSome?_cons,
    Rule.answer?_of_turns h honly]
  rfl

/-- A word stays if a rule applies that leaves it, and all earlier ones leave it, too. -/
theorem findSome?_of_idle {earlier later : List Rule} {r : Rule} {w s : List Char}
    (hearlier : ∀ q ∈ earlier, q.Idle w) (hr : r.Idle w) (h : r.Turns w s) :
    (earlier ++ r :: later).findSome? (·.answer? w) = some w := by
  induction earlier with
  | nil =>
      rw [List.nil_append, List.findSome?_cons, Rule.answer?_of_turns (hr s h ▸ h) hr]
  | cons q earlier ih =>
      rw [List.forall_mem_cons] at hearlier
      rw [List.cons_append, List.findSome?_cons]
      cases hanswer : q.answer? w with
      | none => exact ih hearlier.2
      | some t => rw [hearlier.1 t (Rule.turns_of_answer? hanswer)]

/-! ### Order of the rules -/

section Order

variable {rules earlier later : List Rule} {r : Rule}

theorem exists_later (h : r ∈ rules) :
    ∃ later, rules = rules.takeWhile (· ≠ r) ++ r :: later := by
  obtain ⟨earlier, later, rfl, hr⟩ := List.eq_append_cons_of_mem h
  refine ⟨later, ?_⟩
  have hearlier : ∀ q ∈ earlier, decide (q ≠ r) = true := by
    intro q hq
    refine decide_eq_true ?_
    rintro rfl
    exact hr hq
  rw [List.takeWhile_append_of_pos hearlier, List.takeWhile_cons_of_neg (by simp), List.append_nil]

theorem takeWhile_subset_earlier (earlier later : List Rule) (r : Rule) :
    (earlier ++ r :: later).takeWhile (· ≠ r) ⊆ earlier := by
  induction earlier with
  | nil => simp
  | cons q earlier ih =>
      rw [List.cons_append, List.takeWhile_cons]
      split_ifs
      · exact List.cons_subset_cons q ih
      · exact List.nil_subset _

theorem mem_rules (h : rules = earlier ++ r :: later) :
    r ∈ rules := by
  rw [h]
  exact List.mem_append_right _ List.mem_cons_self

/-- Where two rules apply, and none before them, they are one. -/
theorem eq_of_turns_first {g : Rule} {w s t : List Char}
    (hrules : rules = earlier ++ r :: later) (hearlier : ∀ q ∈ earlier, ∀ t, ¬ q.Turns w t)
    (hr : r.Turns w s) (hg : g.Turns w t)
    (hfirst : ∀ q ∈ rules.takeWhile (· ≠ g), ∀ t, ¬ q.Turns w t) : r = g := by
  by_contra hne
  have hne' : ∀ q ∈ earlier ++ [r], decide (q ≠ g) = true := by
    intro q hq
    refine decide_eq_true ?_
    rintro rfl
    rcases List.mem_append.1 hq with hq | hq
    · exact hearlier q hq t hg
    · exact hne (List.mem_singleton.1 hq).symm
  refine hfirst r ?_ s hr
  rw [hrules, List.append_cons, List.takeWhile_append_of_pos hne']
  simp

end Order

/-! ## The four outcomes -/

/-- How a word comes to its other form; `otherwise` is what it is if no rule applies. -/
inductive Outcome (irregular : List (String × String)) (rules : List Rule) (otherwise : String)
    (w : String) : String → Prop
  | uncountable (h : w ∈ uncountable) : Outcome irregular rules otherwise w w
  | irregular {s : String} (hw : w ∉ Inflection.uncountable) (h : (w, s) ∈ irregular) :
      Outcome irregular rules otherwise w s
  | ruled {earlier later : List Rule} {r : Rule} {s : List Char}
      (hw : w ∉ Inflection.uncountable) (hnone : irregular.lookup w = none)
      (hrules : rules = earlier ++ r :: later)
      (hearlier : ∀ q ∈ earlier, ∀ t, ¬ q.Turns w.toList t) (h : r.Turns w.toList s) :
      Outcome irregular rules otherwise w (.ofList s)
  | regular (hw : w ∉ Inflection.uncountable) (hnone : irregular.lookup w = none)
      (h : ∀ r ∈ rules, ∀ t, ¬ r.Turns w.toList t) : Outcome irregular rules otherwise w otherwise

theorem mem_of_lookup {table : List (String × String)} {w s : String}
    (h : table.lookup w = some s) : (w, s) ∈ table := by
  obtain ⟨before, after, rfl, -⟩ := List.lookup_eq_some_iff.1 h
  exact List.mem_append_right _ List.mem_cons_self

theorem lookup_eq_none_of_clashes {irregular : List (String × String)} {w : String} {p : Pattern}
    (hp : p.Ends w.toList) (h : ∀ x ∈ irregular, p.clashes (Pattern.ofText x.1) = true) :
    irregular.lookup w = none := by
  rw [List.lookup_eq_none_iff]
  intro x hx
  refine bne_iff_ne.2 ?_
  rintro rfl
  exact Pattern.not_ends_of_clashes (h x hx) hp (Pattern.ends_ofText_iff.2 List.suffix_rfl)

/-- The word is looked up, then handed to the rules. -/
theorem outcome (irregular : List (String × String)) (rules : List Rule) (otherwise w : String) :
    Outcome irregular rules otherwise w
      (if w ∈ uncountable then w
      else
        match irregular.lookup w with
        | some s => s
        | none =>
          match rules.findSome? (·.answer? w.toList) with
          | some s => .ofList s
          | none => otherwise) := by
  split_ifs with h
  · exact .uncountable h
  · cases hlookup : irregular.lookup w with
    | some s => exact .irregular h (mem_of_lookup hlookup)
    | none =>
        dsimp only
        cases hanswer : rules.findSome? (·.answer? w.toList) with
        | none => exact .regular h hlookup (findSome?_eq_none_iff.1 hanswer)
        | some s =>
            obtain ⟨earlier, r, later, hsplit, hearlier, hr⟩ := findSome?_eq_some hanswer
            exact .ruled h hlookup hsplit hearlier hr

theorem singular_outcome (word : String) :
    Outcome irregularSingulars singularRules word word (singular word) :=
  outcome irregularSingulars singularRules word word

theorem plural_outcome (word : String) :
    Outcome irregularPlurals pluralRules (word ++ "s") word (plural word) :=
  outcome irregularPlurals pluralRules (word ++ "s") word

end EntityClasses.Inflection
