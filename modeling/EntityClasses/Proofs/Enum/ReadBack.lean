import EntityClasses.Proofs.Class.Unbroken
import EntityClasses.Proofs.Enum.Written

/-!
# Enumerations can be read back

From the file of an enumeration its name, its constants and its helpers are found again, whichever
texts the labels and values are.
-/
namespace EntityClasses

open EnumSyntax

/-! ## Lines -/

theorem flatMap_lineText_map {f : Constant → String} {write : Constant → List Char}
    (h : ∀ k, lineText (f k) = write k) (ks : List Constant) :
    (ks.map f).flatMap lineText = ks.flatMap write := by
  rw [List.flatMap_map]
  exact congrArg (fun g => ks.flatMap g) (funext h)

theorem lineText_listEntry (k : Constant) : lineText (EnumLayout.listEntry k) = labelText k := by
  unfold EnumLayout.listEntry lineText labelText
  simp only [String.toList_append, List.append_assoc]
  rfl

theorem flatMap_lineText_helpers {x : EnumSyntax} {f : Constant → String}
    (hf : ∀ k, lineText (f k) = x.pairText k) {opened between : List String}
    (hopened : opened.flatMap lineText = x.mapOpened)
    (hbetween : between.flatMap lineText = x.listOpened) (ks : List Constant) :
    (opened ++ ks.map f ++ between ++ ks.map EnumLayout.listEntry ++ ["        ];", "    \x7d"] ++
      ["\x7d"]).flatMap lineText = x.helpersText ks := by
  have hentries := flatMap_lineText_map hf ks
  have hlabels := flatMap_lineText_map lineText_listEntry ks
  unfold helpersText
  simp only [List.append_assoc, List.flatMap_append]
  rw [hopened, hentries, hbetween, hlabels]
  rfl

theorem flatMap_lineText_body {x : EnumSyntax} {f : Constant → String}
    (hf : ∀ k, lineText (f k) = x.constantText k) {ks : List Constant} {helpers : List String}
    (hhelpers : (helpers ++ ["\x7d"]).flatMap lineText = x.helpersText ks) (c : Config) :
    (EnumLayout.body c (ks.map f) helpers ++ ["\x7d"]).flatMap lineText =
      ks.flatMap x.constantText ++ x.behindText c ks := by
  have hconstants := flatMap_lineText_map hf ks
  unfold EnumLayout.body behindText
  cases c.enumHelpers with
  | false =>
      rw [if_neg Bool.false_ne_true, if_neg Bool.false_ne_true, List.flatMap_append, hconstants]
      rfl
  | true =>
      rw [if_pos rfl, if_pos rfl, List.append_assoc, List.flatMap_append, hhelpers]
      -- the empty line belongs to the constants and stands only behind some
      cases ks with
      | nil => rfl
      | cons k ks =>
          have hblock : block ((k :: ks).map f) = (k :: ks).map f ++ [""] := rfl
          rw [hblock, List.flatMap_append, hconstants, List.append_assoc]
          rfl

namespace Php

theorem enumSyntax_separates : enumSyntax.Separates where
  header := ⟨'\n', lineText "\x7b", rfl, rfl⟩
  constant_closing := rfl
  constant_blank _ := rfl
  constant_map _ := rfl
  pair_list _ := rfl
  map_closing _ := nofun

theorem flatMap_lineText_opening (c : Config) :
    (opening c).flatMap lineText = Dialect.php.enumOpening c.nameSpace := by
  have hstart : ["<?php", ""].flatMap lineText = "<?php\n\n".toList := rfl
  have hline : ["namespace " ++ c.nameSpace ++ ";", ""].flatMap lineText =
      "namespace ".toList ++ (c.nameSpace.toList ++ ";\n\n".toList) := by
    rw [List.flatMap_cons, lineText]
    simp only [String.toList_append, List.append_assoc]
    rfl
  unfold opening Dialect.enumOpening
  rw [List.flatMap_append, hstart]
  by_cases hempty : c.nameSpace = ""
  · rw [if_pos hempty, if_pos (by simpa using hempty)]
    rfl
  · rw [if_neg hempty, if_neg (by simpa using hempty), hline]

/-- A namespace ends with its line. -/
theorem opening?_enumOpening {nameSpace : String} (hspace : OneLine nameSpace) (c : Config)
    (l : EnumLayout) :
    opening? (Dialect.php.enumOpening nameSpace ++ enumSyntax.classText c l) =
      some (enumSyntax.classText c l) := by
  have hstart : "<?php\n\n".toList = ["<?php", ""].flatMap lineText := rfl
  unfold opening? Dialect.enumOpening
  rw [hstart, List.append_assoc]
  simp only [dropPrefix?_append_self, Option.bind_eq_bind, Option.bind_some]
  split_ifs with hempty
  · rfl
  · have hdrop (s : List Char) : (nameSpace.toList ++ (";\n\n".toList ++ s)).dropWhile
        (fun a => decide (a ≠ '\n')) = '\n' :: '\n' :: s := by
      rw [List.dropWhile_append_of_pos]
      · rfl
      · intro a ha
        exact decide_eq_true fun heq => hspace (heq ▸ ha)
    rw [List.append_assoc, List.append_assoc, dropPrefix?_append_self]
    simp only [hdrop]
    rfl

theorem lineText_phpConstant (k : Constant) :
    lineText (EnumLayout.phpConstant k) = enumSyntax.constantText k := by
  unfold EnumLayout.phpConstant lineText constantText
  simp only [String.toList_append, List.append_assoc]
  rfl

theorem lineText_phpMapEntry (k : Constant) :
    lineText (EnumLayout.phpMapEntry k) = enumSyntax.pairText k := by
  unfold EnumLayout.phpMapEntry lineText pairText
  simp only [String.toList_append, List.append_assoc]
  rfl

theorem flatMap_lineText_phpHelpers (ks : List Constant) :
    (EnumLayout.phpHelpers ks ++ ["\x7d"]).flatMap lineText = enumSyntax.helpersText ks :=
  flatMap_lineText_helpers lineText_phpMapEntry rfl rfl ks

theorem toList_unlines_phpLines (c : Config) (l : EnumLayout) :
    (unlines (l.phpLines c)).toList =
      Dialect.php.enumOpening c.nameSpace ++ enumSyntax.classText c l := by
  have hheader : ["class " ++ l.className, "\x7b"].flatMap lineText =
      enumSyntax.headerStart ++ (l.className.toList ++ enumSyntax.headerEnd) := by
    rw [List.flatMap_cons, lineText, String.toList_append, List.append_assoc, List.append_assoc]
    rfl
  rw [toList_unlines]
  unfold EnumLayout.phpLines classText
  rw [List.append_assoc, List.append_assoc, List.flatMap_append, List.flatMap_append,
    flatMap_lineText_opening, hheader,
    flatMap_lineText_body lineText_phpConstant (flatMap_lineText_phpHelpers _), List.append_assoc,
    List.append_assoc]

end Php

namespace JavaScript

theorem enumSyntax_separates : enumSyntax.Separates where
  header := ⟨' ', "\x7b\n".toList, rfl, rfl⟩
  constant_closing := rfl
  constant_blank _ := rfl
  constant_map _ := rfl
  pair_list _ := rfl
  map_closing _ := nofun

theorem lineText_javaScriptConstant (k : Constant) :
    lineText (EnumLayout.javaScriptConstant k) = enumSyntax.constantText k := by
  unfold EnumLayout.javaScriptConstant lineText constantText
  simp only [String.toList_append, List.append_assoc]
  rfl

theorem lineText_javaScriptMapEntry (k : Constant) :
    lineText (EnumLayout.javaScriptMapEntry k) = enumSyntax.pairText k := by
  unfold EnumLayout.javaScriptMapEntry lineText pairText
  simp only [String.toList_append, List.append_assoc]
  rfl

theorem flatMap_lineText_javaScriptHelpers (ks : List Constant) :
    (EnumLayout.javaScriptHelpers ks ++ ["\x7d"]).flatMap lineText = enumSyntax.helpersText ks :=
  flatMap_lineText_helpers lineText_javaScriptMapEntry rfl rfl ks

theorem toList_unlines_javaScriptLines (c : Config) (l : EnumLayout) :
    (unlines (l.javaScriptLines c)).toList = enumSyntax.classText c l := by
  have hheader : ["export class " ++ l.className ++ " \x7b"].flatMap lineText =
      enumSyntax.headerStart ++ (l.className.toList ++ enumSyntax.headerEnd) := by
    rw [List.flatMap_singleton, lineText, String.toList_append, String.toList_append,
      List.append_assoc, List.append_assoc]
    rfl
  rw [toList_unlines]
  unfold EnumLayout.javaScriptLines classText
  rw [List.append_assoc, List.flatMap_append, hheader,
    flatMap_lineText_body lineText_javaScriptConstant (flatMap_lineText_javaScriptHelpers _),
    List.append_assoc, List.append_assoc]

end JavaScript

namespace Dialect

theorem enumSyntax_separates (d : Dialect) : d.enumSyntax.Separates := by
  cases d with
  | php => exact Php.enumSyntax_separates
  | javaScript => exact JavaScript.enumSyntax_separates

theorem toList_enumContent (d : Dialect) (c : Config) (l : EnumLayout) :
    (l.artifact d c).content.toList =
      d.enumOpening c.nameSpace ++ d.enumSyntax.classText c l := by
  cases d with
  | php => exact Php.toList_unlines_phpLines c l
  | javaScript => exact JavaScript.toList_unlines_javaScriptLines c l

variable {c : Config} {l : EnumLayout}

/-- What an enumeration shows is what its layout holds. -/
theorem showsEnum_artifact (d : Dialect) (hname : NoBlank l.className.toList)
    (h : ∀ k ∈ l.constants, k.Legible) : d.ShowsEnum c.nameSpace (l.artifact d c).content
      ⟨l.className, l.constants.map fun k => (k.name, k.literal), shownHelpers c l.constants⟩ :=
  ⟨_, d.toList_enumContent c l, readClass_classText d.enumSyntax_separates hname h⟩

theorem read_enumLayout (d : Dialect) (hspace : OneLine c.nameSpace)
    (hname : NoBlank l.className.toList) (h : ∀ k ∈ l.constants, k.Legible) :
    d.enumSyntax.read (l.artifact d c).content =
      some ⟨l.className, l.constants.map fun k => (k.name, k.literal),
        shownHelpers c l.constants⟩ := by
  have hopening : d.enumSyntax.opening? (d.enumOpening c.nameSpace ++ d.enumSyntax.classText c l) =
      some (d.enumSyntax.classText c l) := by
    cases d with
    | php => exact Php.opening?_enumOpening hspace c l
    | javaScript => rfl
  rw [EnumSyntax.read, toList_enumContent, hopening]
  exact readClass_classText d.enumSyntax_separates hname h

end Dialect

open EnumLayout

variable {d : Dialect} {c : Config} {s : EnumSource} {a : Artifact}

namespace EnumLayout

variable {l : EnumLayout}

theorem legible_of_build (h : build c s = .ok l) :
    NoBlank l.className.toList ∧ ∀ k ∈ l.constants, k.Legible := by
  obtain ⟨hname, hgives⟩ := build_eq_ok_iff.1 h
  refine ⟨hname ▸ c.noBlank_classFor s.table, fun k hk => ?_⟩
  obtain ⟨row, -, hrow⟩ := exists_partner hgives.flip hk
  exact hrow.legible

theorem shows_of_build (d : Dialect) (h : build c s = .ok l) :
    d.ShowsEnum c.nameSpace (l.artifact d c).content ⟨c.classFor s.table,
      l.constants.map fun k => (k.name, k.literal), shownHelpers c l.constants⟩ := by
  obtain ⟨hblank, hlegible⟩ := legible_of_build h
  rw [← (build_eq_ok_iff.1 h).1]
  exact d.showsEnum_artifact hblank hlegible

end EnumLayout

theorem Json.Literal.value_unique {v w : Json} {literal : String} (hv : v.isPlain)
    (hw : w.isPlain) (h : v.Literal literal) (h' : w.Literal literal) : v = w := by
  rw [← literalOf_inj hv hw, Json.literalOf_eq_iff.2 h, Json.literalOf_eq_iff.2 h']

/-- The file of an enumeration shows one constant for each row, in the order of the rows, and with
helpers the labels as they stand in the rows, paired with the literals of the constants. A plain
value is the only one with its literal. -/
theorem read_enumArtifact (h : enumArtifact d c s = .ok a) (hspace : OneLine c.nameSpace) :
    (∃ ks, List.Forall₂ (s.Gives c) s.rows ks ∧
      d.enumSyntax.read a.content = some ⟨c.classFor s.table,
        ks.map fun k => (k.name, k.literal),
        if c.enumHelpers then some ⟨ks.map fun k => (k.label, k.literal), ks.map Constant.label⟩
        else none⟩) ∧
    ∀ v w : Json, v.isPlain → w.isPlain → ∀ literal, v.Literal literal → w.Literal literal →
      v = w := by
  refine ⟨?_, fun v w hv hw literal => Json.Literal.value_unique hv hw⟩
  obtain ⟨l, hl, rfl⟩ := map_eq_ok_iff.1 h
  obtain ⟨hname, hgives⟩ := build_eq_ok_iff.1 hl
  obtain ⟨hblank, hlegible⟩ := legible_of_build hl
  refine ⟨l.constants, hgives, ?_⟩
  rw [d.read_enumLayout hspace hblank hlegible, hname]
  rfl

/-- Notes whose labels and values look like the ends of literals and of entries. -/
def notes : EnumSource where
  table := "notes"
  rows := [.ofList [("name", .text "it's';\n\x7d"), ("id", .text "\\' => 1,")],
    .ofList [("name", .text "toMap() \x7b"), ("id", .int (-3))],
    .ofList [("name", .bool true), ("id", .array [.null, .text "',"])]]
  nameField := "name"
  valueField := "id"

theorem read_enumArtifact_notes : OneLine Config.default.nameSpace ∧
    ∃ a, enumArtifact .javaScript .default notes = .ok a ∧
      Dialect.javaScript.enumSyntax.read a.content = some ⟨"Note",
        [("it's';\x7d", "'\\\\\\' => 1,'"), ("toMap()\x7b", "-3"), ("true", "'[null,\"\\',\"]'")],
        some ⟨[("it's';\n\x7d", "'\\\\\\' => 1,'"), ("toMap() \x7b", "-3"),
            ("true", "'[null,\"\\',\"]'")],
          ["it's';\n\x7d", "toMap() \x7b", "true"]⟩⟩ := by
  have hspace : OneLine Config.default.nameSpace := by decide
  have hbuild : build .default notes = .ok ⟨"Note",
      [⟨"it's';\x7d", "it's';\n\x7d", "'\\\\\\' => 1,'"⟩, ⟨"toMap()\x7b", "toMap() \x7b", "-3"⟩,
       ⟨"true", "true", "'[null,\"\\',\"]'"⟩]⟩ := by
    decide +kernel
  have hmade := congrArg (Except.map (artifact .javaScript .default)) hbuild
  obtain ⟨⟨ks, hgives, hread⟩, -⟩ := read_enumArtifact hmade hspace
  -- the rows give no other constants than those of the layout
  have hks : build .default notes = .ok ⟨Config.default.classFor notes.table, ks⟩ :=
    build_eq_ok_iff.2 ⟨rfl, hgives⟩
  obtain ⟨hname, rfl⟩ := EnumLayout.mk.inj (Except.ok.inj (hks.symm.trans hbuild))
  rw [hname] at hread
  exact ⟨hspace, _, hmade, hread⟩

end EntityClasses
