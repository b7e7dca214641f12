import EntityClasses.Proofs.Name.Clear
import Mathlib

/-!
# Casings one after another

Joined words keep none of the underscores between them and have capitals where the words began, so
joining them again finds one word with its capital in place. A capital that snake splits off comes
back behind its underscore. So camel and Pascal make of a cased name what they make of the raw one.
-/
namespace EntityClasses.Casing

variable {s t : List Char}

/-! ## Letters -/

theorem toUpper_ne_underscore {c : Char} (hc : c ≠ '_') : c.toUpper ≠ '_' := by
  rcases toUpper_eq_or c with h | h
  · rwa [h]
  · rintro hunderscore
    rw [hunderscore] at h
    cases h

theorem toLower_ne_underscore {c : Char} (hc : c ≠ '_') : c.toLower ≠ '_' := by
  rcases toLower_eq_or c with h | h
  · rwa [h]
  · rintro hunderscore
    rw [hunderscore] at h
    cases h

/-! ## Underscores for blanks -/

theorem underscoreBlanks_eq_self (h : NoBlank s) : underscoreBlanks s = s := by
  induction s with
  | nil => rfl
  | cons c r ih =>
      obtain ⟨hc, hr⟩ := List.forall_mem_cons.1 h
      unfold underscoreBlanks
      rw [if_neg (Bool.eq_false_iff.1 hc), ih hr]

theorem noBlank_apply (k : Casing) (s : List Char) : NoBlank (k.apply s) := by
  have h := Config.noBlank_convert (.ofList s) k
  rwa [convert, String.toList_ofList, String.toList_ofList] at h

theorem underscoreBlanks_apply (k : Casing) (s : List Char) :
    underscoreBlanks (k.apply s) = k.apply s :=
  underscoreBlanks_eq_self (noBlank_apply k s)

/-! ## Joined words -/

/-- Joins words in one pass; what comes next may start a word. -/
def join (start : Bool) : List Char → List Char
  | [] => []
  | c :: r =>
    if c = '_' then join true r
    else (if start then c.toUpper else c) :: join false r

theorem join_eq_of_splitOn {w : List Char} {ws : List (List Char)} (h : s.splitOn '_' = w :: ws) :
    join true s = capitalized w ++ ws.flatMap capitalized ∧
      join false s = w ++ ws.flatMap capitalized := by
  induction s generalizing w ws with
  | nil =>
      cases h
      exact ⟨rfl, rfl⟩
  | cons c r ih =>
      obtain ⟨v, vs, hr⟩ := List.exists_cons_of_ne_nil (List.splitOn_ne_nil '_' r)
      obtain ⟨htrue, hfalse⟩ := ih hr
      rw [List.splitOn_cons_eq_if_modifyHead, hr] at h
      by_cases hc : c = '_'
      · rw [if_pos (by simpa using hc)] at h
        cases h
        rw [join, join, if_pos hc, if_pos hc, htrue]
        exact ⟨rfl, rfl⟩
      · rw [if_neg (by simpa using hc), List.modifyHead_cons] at h
        cases h
        rw [join, join, if_neg hc, if_neg hc, hfalse]
        exact ⟨rfl, rfl⟩

theorem joinCapitalized_eq_join (s : List Char) : joinCapitalized s = join true s := by
  cases h : s.splitOn '_' with
  | nil => exact absurd h (List.splitOn_ne_nil _ _)
  | cons w ws => rw [joinCapitalized, h, List.flatMap_cons, (join_eq_of_splitOn h).1]

theorem underscore_not_mem_join (start : Bool) (s : List Char) : '_' ∉ join start s := by
  induction s generalizing start with
  | nil => exact List.not_mem_nil
  | cons c r ih =>
      unfold join
      split_ifs with hc hstart
      · exact ih true
      · exact List.not_mem_cons_of_ne_of_not_mem (toUpper_ne_underscore hc).symm (ih false)
      · exact List.not_mem_cons_of_ne_of_not_mem (Ne.symm hc) (ih false)

/-- Without an underscore there is one word. -/
theorem join_of_not_mem (h : '_' ∉ s) : join false s = s ∧ join true s = capitalized s := by
  induction s with
  | nil => exact ⟨rfl, rfl⟩
  | cons c r ih =>
      obtain ⟨hc, hr⟩ := List.ne_and_not_mem_of_not_mem_cons h
      simp [join, Ne.symm hc, (ih hr).1, capitalized]

theorem capitalized_join (s : List Char) : capitalized (join true s) = join true s := by
  induction s with
  | nil => rfl
  | cons c r ih =>
      unfold join
      by_cases hc : c = '_'
      · rw [if_pos hc, ih]
      · rw [if_neg hc, if_pos rfl, capitalized, Char.toUpper_toUpper_eq_toUpper]

theorem capitalized_decapitalized (s : List Char) :
    capitalized (decapitalized s) = capitalized s := by
  cases s with
  | nil => rfl
  | cons c r => rw [decapitalized, capitalized, capitalized, Char.toUpper_toLower_eq_toUpper]

theorem underscore_not_mem_decapitalized (h : '_' ∉ s) : '_' ∉ decapitalized s := by
  cases s with
  | nil => exact h
  | cons c r =>
      obtain ⟨hc, hr⟩ := List.ne_and_not_mem_of_not_mem_cons h
      exact List.not_mem_cons_of_ne_of_not_mem (toLower_ne_underscore (Ne.symm hc)).symm hr

theorem join_join (s : List Char) : join true (join true s) = join true s := by
  rw [(join_of_not_mem (underscore_not_mem_join true s)).2, capitalized_join]

theorem join_decapitalized_join (s : List Char) :
    join true (decapitalized (join true s)) = join true s := by
  have h := underscore_not_mem_decapitalized (underscore_not_mem_join true s)
  rw [(join_of_not_mem h).2, capitalized_decapitalized, capitalized_join]

/-! ## Split capitals -/

/-- A capital behind an underscore is the one that was split off. -/
theorem join_snakeLetter_append (start : Bool) (c : Char) (hs : ∀ b, join b s = join b t) :
    join start (snakeLetter c ++ s) = join start (c :: t) := by
  unfold snakeLetter
  split_ifs with hc
  · have hne : c ≠ '_' := by
      rintro rfl
      cases hc
    have hupper : c.toUpper = c := Char.toUpper_eq_of_not_isLower (Char.not_isLower_of_isUpper hc)
    calc join start ('_' :: c.toLower :: s)
        = c.toLower.toUpper :: join false s := by simp [join, toLower_ne_underscore hne]
      _ = c :: join false t := by rw [Char.toUpper_toLower_eq_toUpper, hupper, hs]
      _ = join start (c :: t) := by simp [join, hne, hupper]
  · simp only [List.singleton_append, join, hs]

theorem join_flatMap_snakeLetter (start : Bool) (s : List Char) :
    join start (s.flatMap snakeLetter) = join start s := by
  induction s generalizing start with
  | nil => rfl
  | cons c r ih => exact join_snakeLetter_append start c ih

theorem join_splitCapitals (s : List Char) : join true (splitCapitals s) = join true s := by
  cases s with
  | nil => rfl
  | cons c r =>
      unfold splitCapitals join
      by_cases hc : c = '_'
      · subst hc
        exact join_flatMap_snakeLetter true r
      · rw [if_neg hc, if_neg (toLower_ne_underscore hc), join_flatMap_snakeLetter, if_pos rfl,
          if_pos rfl, Char.toUpper_toLower_eq_toUpper]

theorem snakeLetter_of_not_isUpper {c : Char} (h : c.isUpper = false) : snakeLetter c = [c] := by
  simp [snakeLetter, h]

theorem not_isUpper_of_mem_flatMap_snakeLetter {c : Char} (h : c ∈ s.flatMap snakeLetter) :
    c.isUpper = false := by
  obtain ⟨d, -, hd⟩ := List.mem_flatMap.1 h
  unfold snakeLetter at hd
  split_ifs at hd with hupper
  · rcases List.mem_cons.1 hd with rfl | hd
    · rfl
    · rw [List.mem_singleton.1 hd, Char.isUpper_toLower_eq_false]
  · rw [List.mem_singleton.1 hd]
    exact Bool.eq_false_iff.2 hupper

theorem splitCapitals_splitCapitals (s : List Char) :
    splitCapitals (splitCapitals s) = splitCapitals s := by
  cases s with
  | nil => rfl
  | cons c r =>
      have hsplit : (r.flatMap snakeLetter).flatMap snakeLetter = r.flatMap snakeLetter := by
        rw [List.flatMap_congr fun d hd =>
          snakeLetter_of_not_isUpper (not_isUpper_of_mem_flatMap_snakeLetter hd)]
        exact List.flatMap_singleton' _
      rw [splitCapitals, splitCapitals, hsplit, Char.toLower_toLower_eq_toLower]

/-! ## Casings -/

/-- A casing leaves the joined words as they are. -/
theorem join_apply (k : Casing) (s : List Char) :
    join true (k.apply s) = join true (underscoreBlanks s) := by
  cases k with
  | camel => rw [apply, joinCapitalized_eq_join, join_decapitalized_join]
  | pascal => rw [apply, joinCapitalized_eq_join, join_join]
  | snake => rw [apply, join_splitCapitals]
  | unchanged => rfl

theorem pascal_apply_apply (k : Casing) (s : List Char) :
    pascal.apply (k.apply s) = pascal.apply s := by
  rw [apply, underscoreBlanks_apply, joinCapitalized_eq_join, join_apply, apply,
    joinCapitalized_eq_join]

theorem camel_apply (s : List Char) : camel.apply s = decapitalized (pascal.apply s) :=
  rfl

theorem camel_apply_apply (k : Casing) (s : List Char) :
    camel.apply (k.apply s) = camel.apply s := by
  rw [camel_apply, pascal_apply_apply, camel_apply]

theorem snake_apply_snake (s : List Char) : snake.apply (snake.apply s) = snake.apply s := by
  calc snake.apply (snake.apply s)
      = splitCapitals (underscoreBlanks (snake.apply s)) := rfl
    _ = splitCapitals (splitCapitals (underscoreBlanks s)) := by
        rw [underscoreBlanks_apply, apply]
    _ = snake.apply s := splitCapitals_splitCapitals _

theorem apply_apply (k : Casing) (s : List Char) : k.apply (k.apply s) = k.apply s := by
  cases k with
  | camel => exact camel_apply_apply camel s
  | pascal => exact pascal_apply_apply pascal s
  | snake => exact snake_apply_snake s
  | unchanged => exact underscoreBlanks_apply unchanged s

theorem convert_convert (k l : Casing) (raw : String) :
    k.convert (l.convert raw) = .ofList (k.apply (l.apply raw.toList)) := by
  rw [convert, convert, String.toList_ofList]

/-- A name may be cased before it is cased: camel and Pascal do not see it, `unchanged` has nothing
to do any more, and no casing does anything the second time. A table has the same class then. -/
theorem cased_before (k : Casing) (raw : String) :
    camel.convert (k.convert raw) = camel.convert raw ∧
    pascal.convert (k.convert raw) = pascal.convert raw ∧
    unchanged.convert (k.convert raw) = k.convert raw ∧
    snake.convert (unchanged.convert raw) = snake.convert raw ∧
    k.convert (k.convert raw) = k.convert raw ∧
    ∀ c : Config, c.classCasing = camel ∨ c.classCasing = pascal →
      c.classFor (k.convert raw) = c.classFor raw := by
  have hcamel : camel.convert (k.convert raw) = camel.convert raw := by
    rw [convert_convert, camel_apply_apply, ← convert]
  have hpascal : pascal.convert (k.convert raw) = pascal.convert raw := by
    rw [convert_convert, pascal_apply_apply, ← convert]
  refine ⟨hcamel, hpascal, ?_, ?_, ?_, ?_⟩
  · rw [convert_convert]
    exact congrArg String.ofList (underscoreBlanks_apply k raw.toList)
  · rw [convert_convert]
    exact congrArg (String.ofList ∘ splitCapitals) (underscoreBlanks_apply unchanged raw.toList)
  · rw [convert_convert, apply_apply, ← convert]
  · rintro c (h | h)
    · rw [Config.classFor, h, hcamel, ← h, ← Config.classFor]
    · rw [Config.classFor, h, hpascal, ← h, ← Config.classFor]

/-- Order items are of one class, whichever casing their table was named in. -/
theorem order_items_cased_before :
    Config.default.classFor "Order items" = "OrderItem" ∧
    Config.default.classFor "order_items" = "OrderItem" ∧
    Config.default.classFor "orderItems" = "OrderItem" := by
  have hclass : Config.default.classFor "Order items" = "OrderItem" := by decide
  have hsnake : snake.convert "Order items" = "order_items" := by decide
  have hcamel : camel.convert "Order items" = "orderItems" := by decide
  obtain ⟨-, -, -, -, -, hs⟩ := cased_before snake "Order items"
  obtain ⟨-, -, -, -, -, hc⟩ := cased_before camel "Order items"
  refine ⟨hclass, ?_, ?_⟩
  · rw [← hsnake, hs Config.default (.inr rfl), hclass]
  · rw [← hcamel, hc Config.default (.inr rfl), hclass]

end EntityClasses.Casing
