import EntityClasses.Proofs.Enum.ReadBack
import EntityClasses.Proofs.Generation.Reaches
import EntityClasses.Proofs.Generation.Task

/-!
# Enumerations, check by check

The run for an enumeration lists the columns of its table, looks for both fields among them, reads
the rows, makes the constants and hands over the file. It ends at the first of these that fails;
`EnumCourse` tells what it has asked and handed over by then, from the answers of the catalog and the
sink alone.
-/
namespace EntityClasses

variable {σ τ α β : Type}

open Generation

/-- Whether a column of this name is among the columns. -/
def Listed (columns : List Column) (field : String) : Prop :=
  ∃ col ∈ columns, col.name = field

namespace Generator

section

variable {s : σ} {k : τ}

theorem requireField_listed {columns : List Column} {field : String} (table : String)
    (h : Listed columns field) :
    Reaches s k (requireField table columns field : Generation σ τ Unit) (.ok ()) s k := by
  have hany : columns.any (·.name == field) = true := by simpa [Listed] using h
  unfold requireField
  rw [if_pos hany]
  exact Reaches.pure ()

theorem requireField_unlisted {columns : List Column} {field : String} (table : String)
    (h : ¬Listed columns field) : Reaches s k
      (requireField table columns field : Generation σ τ Unit) (.error (.fieldNotFound table field))
      s k := by
  have hany : ¬columns.any (·.name == field) = true := by simpa [Listed] using h
  unfold requireField
  rw [if_neg hany]
  exact Reaches.fail _

end

/-- How the run for an enumeration goes from the states `s` and `k` of catalog and sink: its result,
what it asks, what it hands over, and the state of the sink in the end. -/
inductive EnumCourse (g : Generator σ τ) (schema table nameField valueField : String) (s : σ)
    (k : τ) : Except Failure Artifact → List Request → List Attempt → τ → Prop
  | unlisted {reason : String} {s₁ : σ}
      (hcolumns : g.catalog.ask (.columns schema table) s = (.error reason, s₁)) :
      EnumCourse g schema table nameField valueField s k
        (.error (.query .validatingFields table reason)) [.columns schema table] [] k
  | nameUnknown {columns : List Column} {s₁ : σ}
      (hcolumns : g.catalog.ask (.columns schema table) s = (.ok columns, s₁))
      (hname : ¬Listed columns nameField) :
      EnumCourse g schema table nameField valueField s k
        (.error (.fieldNotFound table nameField)) [.columns schema table] [] k
  | valueUnknown {columns : List Column} {s₁ : σ}
      (hcolumns : g.catalog.ask (.columns schema table) s = (.ok columns, s₁))
      (hname : Listed columns nameField) (hvalue : ¬Listed columns valueField) :
      EnumCourse g schema table nameField valueField s k
        (.error (.fieldNotFound table valueField)) [.columns schema table] [] k
  | unread {columns : List Column} {s₁ s₂ : σ} {reason : String}
      (hcolumns : g.catalog.ask (.columns schema table) s = (.ok columns, s₁))
      (hname : Listed columns nameField) (hvalue : Listed columns valueField)
      (hrows : g.catalog.ask (.rows schema table) s₁ = (.error reason, s₂)) :
      EnumCourse g schema table nameField valueField s k
        (.error (.query .queryingRows table reason)) [.columns schema table, .rows schema table] [] k
  | rejected {columns : List Column} {s₁ s₂ : σ} {rows : List Row} {f : Failure}
      (hcolumns : g.catalog.ask (.columns schema table) s = (.ok columns, s₁))
      (hname : Listed columns nameField) (hvalue : Listed columns valueField)
      (hrows : g.catalog.ask (.rows schema table) s₁ = (.ok rows, s₂))
      (hbuild : EnumLayout.build g.config ⟨table, rows, nameField, valueField⟩ = .error f) :
      EnumCourse g schema table nameField valueField s k (.error f)
        [.columns schema table, .rows schema table] [] k
  | unsaved {columns : List Column} {s₁ s₂ : σ} {rows : List Row} {l : EnumLayout}
      (hcolumns : g.catalog.ask (.columns schema table) s = (.ok columns, s₁))
      (hname : Listed columns nameField) (hvalue : Listed columns valueField)
      (hrows : g.catalog.ask (.rows schema table) s₁ = (.ok rows, s₂))
      (hbuild : EnumLayout.build g.config ⟨table, rows, nameField, valueField⟩ = .ok l)
      (hsave : g.config.saveAfterCreate = false) :
      EnumCourse g schema table nameField valueField s k (.ok (l.artifact g.dialect g.config))
        [.columns schema table, .rows schema table] [] k
  | saved {columns : List Column} {s₁ s₂ : σ} {rows : List Row} {l : EnumLayout}
      {answer : Except Failure Outcome} {k' : τ}
      (hcolumns : g.catalog.ask (.columns schema table) s = (.ok columns, s₁))
      (hname : Listed columns nameField) (hvalue : Listed columns valueField)
      (hrows : g.catalog.ask (.rows schema table) s₁ = (.ok rows, s₂))
      (hbuild : EnumLayout.build g.config ⟨table, rows, nameField, valueField⟩ = .ok l)
      (hsave : g.config.saveAfterCreate = true)
      (hwrite : g.sink.write ((l.artifact g.dialect g.config).toRequest g.config) k = (answer, k')) :
      EnumCourse g schema table nameField valueField s k
        (answer.map fun _ => l.artifact g.dialect g.config)
        [.columns schema table, .rows schema table]
        [⟨(l.artifact g.dialect g.config).toRequest g.config, answer⟩] k'

section

variable {g : Generator σ τ} {s s' : σ}

theorem ask_recorded {q : Request} {answer : Except String q.Answer}
    (h : g.catalog.ask q s = (answer, s')) (asked : List Request) :
    g.recorded.catalog.ask q (s, asked) = (answer, s', asked ++ [q]) := by
  simp only [recorded, Catalog.recorded, h]

theorem write_recorded {k k' : τ} {q : WriteRequest} {answer : Except Failure Outcome}
    (h : g.sink.write q k = (answer, k')) (made : List Attempt) :
    g.recorded.sink.write q (k, made) = (answer, k', made ++ [⟨q, answer⟩]) := by
  simp only [recorded, Sink.recorded, h]

end

/-- What is left of the run once the rows are there. -/
theorem emitRows_course (g : Generator σ τ) {schema table nameField valueField : String}
    {columns : List Column} {s s₁ s₂ : σ} {rows : List Row} (k : τ)
    (hcolumns : g.catalog.ask (.columns schema table) s = (.ok columns, s₁))
    (hname : Listed columns nameField) (hvalue : Listed columns valueField)
    (hrows : g.catalog.ask (.rows schema table) s₁ = (.ok rows, s₂)) (asked : List Request)
    (made : List Attempt) : ∃ r k' attempts,
      g.EnumCourse schema table nameField valueField s k r
        [.columns schema table, .rows schema table] attempts k' ∧
      Reaches (s₂, asked) (k, made) (do
        note (.entering .emitting table)
        g.recorded.deliver
          (← ofResult (enumArtifact g.dialect g.config ⟨table, rows, nameField, valueField⟩)))
        r (s₂, asked) (k', made ++ attempts) := by
  have hnote := Reaches.note (s := (s₂, asked)) (k := (k, made)) (.entering .emitting table)
  cases hbuild : EnumLayout.build g.config ⟨table, rows, nameField, valueField⟩ with
  | error f =>
      refine ⟨_, _, _, .rejected hcolumns hname hvalue hrows hbuild, ?_⟩
      rw [List.append_nil]
      simp only [enumArtifact, hbuild]
      exact hnote.bind_ok ((Reaches.fail f).bind_error _)
  | ok l =>
      simp only [enumArtifact, hbuild]
      cases hsave : g.config.saveAfterCreate with
      | false =>
          refine ⟨_, _, _, .unsaved hcolumns hname hvalue hrows hbuild hsave, ?_⟩
          rw [List.append_nil]
          exact hnote.bind_ok ((Reaches.pure _).bind_ok (deliver_unsaved hsave))
      | true =>
          rcases hwrite : g.sink.write ((l.artifact g.dialect g.config).toRequest g.config) k with
            ⟨answer, k'⟩
          refine ⟨_, _, _, .saved hcolumns hname hvalue hrows hbuild hsave hwrite, ?_⟩
          have hdeliver := deliver_saved (s := (s₂, asked)) (g := g.recorded) hsave
            (write_recorded hwrite made)
          exact hnote.bind_ok ((Reaches.pure _).bind_ok hdeliver)

/-- The run follows a course, from any records. -/
theorem runEnum_course (g : Generator σ τ) (schema table nameField valueField : String) (s : σ)
    (k : τ) (asked : List Request) (made : List Attempt) : ∃ r s' k' requests attempts,
      g.EnumCourse schema table nameField valueField s k r requests attempts k' ∧
      Reaches (s, asked) (k, made) (g.recorded.runEnum schema table nameField valueField) r
        (s', asked ++ requests) (k', made ++ attempts) := by
  unfold runEnum
  rcases hcolumns : g.catalog.ask (.columns schema table) s with ⟨reason | columns, s₁⟩
  · refine ⟨_, s₁, _, _, _, .unlisted hcolumns, ?_⟩
    rw [List.append_nil]
    exact ((Reaches.ask .validatingFields (ask_recorded hcolumns asked)).bind_error _).inSpan _
  have hlisted := Reaches.ask (k := (k, made)) .validatingFields (ask_recorded hcolumns asked)
  by_cases hname : Listed columns nameField
  case neg =>
    refine ⟨_, s₁, _, _, _, .nameUnknown hcolumns hname, ?_⟩
    rw [List.append_nil]
    exact (hlisted.bind_ok ((requireField_unlisted table hname).bind_error _)).inSpan _
  have hnamed := requireField_listed (s := (s₁, asked ++ [.columns schema table]))
    (k := (k, made)) table hname
  by_cases hvalue : Listed columns valueField
  case neg =>
    refine ⟨_, s₁, _, _, _, .valueUnknown hcolumns hname hvalue, ?_⟩
    rw [List.append_nil]
    exact (hlisted.bind_ok (hnamed.bind_ok
      ((requireField_unlisted table hvalue).bind_error _))).inSpan _
  have hvalued := requireField_listed (s := (s₁, asked ++ [.columns schema table]))
    (k := (k, made)) table hvalue
  rcases hrows : g.catalog.ask (.rows schema table) s₁ with ⟨reason | rows, s₂⟩
  · refine ⟨_, s₂, _, _, _, .unread hcolumns hname hvalue hrows, ?_⟩
    have hread := Reaches.ask (k := (k, made)) .queryingRows
      (ask_recorded hrows (asked ++ [.columns schema table]))
    rw [List.append_assoc, List.singleton_append] at hread
    rw [List.append_nil]
    exact (hlisted.bind_ok (hnamed.bind_ok (hvalued.bind_ok (hread.bind_error _)))).inSpan _
  · obtain ⟨r, k', attempts, hcourse, hrest⟩ := g.emitRows_course k hcolumns hname hvalue hrows
      (asked ++ [.columns schema table, .rows schema table]) made
    have hread := Reaches.ask (k := (k, made)) .queryingRows
      (ask_recorded hrows (asked ++ [.columns schema table]))
    rw [List.append_assoc, List.singleton_append] at hread
    refine ⟨r, s₂, k', _, attempts, hcourse, ?_⟩
    exact (hlisted.bind_ok (hnamed.bind_ok (hvalued.bind_ok (hread.bind_ok hrest)))).inSpan _

/-! ## What a course tells -/

/-- The catalog has listed both fields and has answered with these rows. -/
def ReadsRows (g : Generator σ τ) (schema table nameField valueField : String) (s : σ)
    (rows : List Row) : Prop :=
  ∃ columns s₁ s₂, g.catalog.ask (.columns schema table) s = (.ok columns, s₁) ∧
    Listed columns nameField ∧ Listed columns valueField ∧
    g.catalog.ask (.rows schema table) s₁ = (.ok rows, s₂)

/-- The file goes to the sink once, and the answer decides; or it goes nowhere, if files are not
saved. -/
def HandsOver (g : Generator σ τ) (a : Artifact) (k : τ) (r : Except Failure Artifact)
    (attempts : List Attempt) (k' : τ) : Prop :=
  if g.config.saveAfterCreate then
    ∃ answer, g.sink.write (a.toRequest g.config) k = (answer, k') ∧
      attempts = [⟨a.toRequest g.config, answer⟩] ∧ r = answer.map fun _ => a
  else r = .ok a ∧ attempts = [] ∧ k' = k

/-- A file that was made does not end in a failure before the sink has seen it. -/
theorem HandsOver.seen {g : Generator σ τ} {a : Artifact} {k k' : τ} {f : Failure}
    {attempts : List Attempt} (h : g.HandsOver a k (.error f) attempts k') : attempts ≠ [] := by
  unfold HandsOver at h
  rintro rfl
  split at h
  · obtain ⟨answer, -, hattempts, -⟩ := h
    cases hattempts
  · obtain ⟨hr, -⟩ := h
    cases hr

namespace EnumCourse

variable {g : Generator σ τ} {schema table nameField valueField : String} {s : σ} {k k' : τ}
  {r : Except Failure Artifact} {requests : List Request} {attempts : List Attempt}

theorem rows_asked_iff (h : g.EnumCourse schema table nameField valueField s k r requests attempts k') :
    .rows schema table ∈ requests ↔ ∃ columns s₁,
      g.catalog.ask (.columns schema table) s = (.ok columns, s₁) ∧
      Listed columns nameField ∧ Listed columns valueField := by
  cases h with
  | unlisted hcolumns => simp [hcolumns]
  | nameUnknown hcolumns hname => simp [hcolumns, hname]
  | valueUnknown hcolumns hname hvalue => simp [hcolumns, hvalue]
  | unread hcolumns hname hvalue => simp [hcolumns, hname, hvalue]
  | rejected hcolumns hname hvalue => simp [hcolumns, hname, hvalue]
  | unsaved hcolumns hname hvalue => simp [hcolumns, hname, hvalue]
  | saved hcolumns hname hvalue => simp [hcolumns, hname, hvalue]

/-- A field that is not listed ends the run, that of the name first. -/
theorem unknown_field (h : g.EnumCourse schema table nameField valueField s k r requests attempts k')
    {columns : List Column} {s₁ : σ}
    (hcolumns : g.catalog.ask (.columns schema table) s = (.ok columns, s₁)) :
    (¬Listed columns nameField → r = .error (.fieldNotFound table nameField)) ∧
      (Listed columns nameField → ¬Listed columns valueField →
        r = .error (.fieldNotFound table valueField)) := by
  cases h with
  | unlisted h =>
      cases hcolumns.symm.trans h
  | nameUnknown h hname =>
      cases hcolumns.symm.trans h
      exact ⟨fun _ => rfl, fun hlisted => absurd hlisted hname⟩
  | valueUnknown h hname _ =>
      cases hcolumns.symm.trans h
      exact ⟨fun hunlisted => absurd hname hunlisted, fun _ _ => rfl⟩
  | unread h hname hvalue | rejected h hname hvalue | unsaved h hname hvalue
  | saved h hname hvalue =>
      cases hcolumns.symm.trans h
      exact ⟨fun hunlisted => absurd hname hunlisted, fun _ hunlisted => absurd hvalue hunlisted⟩

/-- Once the rows are there, the layout decides: its failure is that of the run, and its file is
handed over. -/
theorem of_rows (h : g.EnumCourse schema table nameField valueField s k r requests attempts k')
    {rows : List Row} (hrows : g.ReadsRows schema table nameField valueField s rows) :
    match EnumLayout.build g.config ⟨table, rows, nameField, valueField⟩ with
    | .error f => r = .error f ∧ attempts = [] ∧ k' = k
    | .ok l => g.HandsOver (l.artifact g.dialect g.config) k r attempts k' := by
  obtain ⟨columns, s₁, s₂, hcolumns, hname, hvalue, hrows⟩ := hrows
  cases h with
  | unlisted h => cases hcolumns.symm.trans h
  | nameUnknown h hunlisted =>
      cases hcolumns.symm.trans h
      exact absurd hname hunlisted
  | valueUnknown h _ hunlisted =>
      cases hcolumns.symm.trans h
      exact absurd hvalue hunlisted
  | unread h _ _ hread =>
      cases hcolumns.symm.trans h
      cases hrows.symm.trans hread
  | rejected h _ _ hread hbuild =>
      cases hcolumns.symm.trans h
      cases hrows.symm.trans hread
      rw [hbuild]
      exact ⟨rfl, rfl, rfl⟩
  | unsaved h _ _ hread hbuild hsave =>
      cases hcolumns.symm.trans h
      cases hrows.symm.trans hread
      rw [hbuild]
      simp [HandsOver, hsave]
  | saved h _ _ hread hbuild hsave hwrite =>
      cases hcolumns.symm.trans h
      cases hrows.symm.trans hread
      rw [hbuild]
      simp [HandsOver, hsave, hwrite]

/-- The rows are rejected by the first that has no name or no value, before the sink sees anything;
if none is, the file shows the constant that each gives. -/
theorem checks_rows {e : EnumSource}
    (h : g.EnumCourse schema e.table e.nameField e.valueField s k r requests attempts
      k')
    (hrows : g.ReadsRows schema e.table e.nameField e.valueField s e.rows) :
    ((∃ name field, r = .error (.invalidRow name field) ∧ attempts = []) ↔
      ∃ row ∈ e.rows, e.Rejects row) ∧
    (∀ before row after field, e.rows = before ++ row :: after →
      (∀ b ∈ before, ¬e.Rejects b) → e.ReportedBy row field →
      r = .error (.invalidRow e.table field)) ∧
    ((∀ row ∈ e.rows, ¬e.Rejects row) → ∃ (a : Artifact) (ks : List Constant),
      List.Forall₂ (e.Gives g.config) e.rows ks ∧
      a.className = g.config.classFor e.table ∧ a.extension = g.dialect.extension ∧
      g.dialect.ShowsEnum g.config.nameSpace a.content ⟨g.config.classFor e.table,
        ks.map fun k => (k.name, k.literal), EnumSyntax.shownHelpers g.config ks⟩ ∧
      g.HandsOver a k r attempts k') := by
  have hlayout := h.of_rows hrows
  cases hbuild : EnumLayout.build g.config e with
  | error f =>
      rw [hbuild] at hlayout
      obtain ⟨rfl, rfl, -⟩ := hlayout
      have hrejects := EnumLayout.build_fails_iff.1 ⟨f, hbuild⟩
      refine ⟨iff_of_true ?_ hrejects, ?_, ?_⟩
      · obtain ⟨_, _, _, field, -, -, -, rfl⟩ := EnumLayout.build_eq_error_iff.1 hbuild
        exact ⟨e.table, field, rfl, rfl⟩
      · intro before row after field hsplit hbefore hfield
        have hfails := EnumLayout.build_eq_error_iff (c := g.config).2
          ⟨before, row, after, field, hsplit, hbefore, hfield, rfl⟩
        cases hbuild.symm.trans hfails
        rfl
      · intro hnone
        obtain ⟨row, hrow, hrejected⟩ := hrejects
        exact absurd hrejected (hnone row hrow)
  | ok l =>
      rw [hbuild] at hlayout
      have hnone : ¬∃ row ∈ e.rows, e.Rejects row := by
        intro hrejects
        obtain ⟨f, hf⟩ := EnumLayout.build_fails_iff (c := g.config).2 hrejects
        cases hbuild.symm.trans hf
      refine ⟨iff_of_false ?_ hnone, ?_, ?_⟩
      · rintro ⟨name, field, rfl, hattempts⟩
        exact hlayout.seen hattempts
      · intro before row after field hsplit _ hfield
        have hrow : row ∈ e.rows :=
          hsplit ▸ List.mem_append_right _ List.mem_cons_self
        exact absurd ⟨row, hrow, EnumSource.rejects_iff_reported.2 ⟨field, hfield⟩⟩ hnone
      · intro _
        obtain ⟨hname, hconstants⟩ := EnumLayout.build_eq_ok_iff.1 hbuild
        exact ⟨_, l.constants, hconstants, hname, rfl, EnumLayout.shows_of_build g.dialect hbuild,
          hlayout⟩

/-- A failure leaves the sink alone, or is the answer of the sink. -/
theorem sink_of_error {f : Failure}
    (h : g.EnumCourse schema table nameField valueField s k (.error f) requests attempts k') :
    (attempts = [] ∧ k' = k) ∨ ∃ q, attempts = [⟨q, .error f⟩] := by
  generalize hr : (Except.error f : Except Failure Artifact) = r at h
  cases h with
  | unlisted | nameUnknown | valueUnknown | unread | rejected => exact .inl ⟨rfl, rfl⟩
  | unsaved => cases hr
  | @saved _ _ _ _ l answer _ _ _ _ _ _ _ _ =>
      cases answer with
      | error e =>
          cases hr
          exact .inr ⟨_, rfl⟩
      | ok o => cases hr

end EnumCourse

/-- An enumeration reads rows exactly if both fields are listed, and is otherwise refused for the
first that is not. The first row without a name or a value is reported and nothing is handed over;
if there is none, a file is made that shows one constant for each row, in order, and it is handed
over once or, if files are not saved, not at all. No failure but that of the sink itself comes with a
change to it. -/
theorem runEnum_check_by_check (g : Generator σ τ) (schema table nameField valueField : String)
    (w : RecordedWorld σ τ) :
    Mirrors (g.recorded.runEnum schema table nameField valueField)
      (g.runEnum schema table nameField valueField) ∧
    ∃ r v t, (g.recorded.runEnum schema table nameField valueField).run w = (r, v) ∧
      v.trace = w.trace ++ t ∧
      (.rows schema table ∈ t.requests ↔ ∃ columns s₁,
        g.catalog.ask (.columns schema table) w.catalog.1 = (.ok columns, s₁) ∧
        Listed columns nameField ∧ Listed columns valueField) ∧
      (∀ columns s₁, g.catalog.ask (.columns schema table) w.catalog.1 = (.ok columns, s₁) →
        (¬Listed columns nameField → r = .error (.fieldNotFound table nameField)) ∧
        (Listed columns nameField → ¬Listed columns valueField →
          r = .error (.fieldNotFound table valueField))) ∧
      (∀ rows, g.ReadsRows schema table nameField valueField w.catalog.1 rows →
        let source : EnumSource := ⟨table, rows, nameField, valueField⟩
        ((∃ name field, r = .error (.invalidRow name field) ∧ t.attempts = []) ↔
          ∃ row ∈ rows, source.Rejects row) ∧
        (∀ before row after field, rows = before ++ row :: after →
          (∀ b ∈ before, ¬source.Rejects b) → source.ReportedBy row field →
          r = .error (.invalidRow table field)) ∧
        ((∀ row ∈ rows, ¬source.Rejects row) → ∃ (a : Artifact) (ks : List Constant),
          List.Forall₂ (source.Gives g.config) rows ks ∧
          a.className = g.config.classFor table ∧ a.extension = g.dialect.extension ∧
          g.dialect.ShowsEnum g.config.nameSpace a.content ⟨g.config.classFor table,
            ks.map fun k => (k.name, k.literal), EnumSyntax.shownHelpers g.config ks⟩ ∧
          g.HandsOver a w.sink.1 r t.attempts v.sink.1)) ∧
      ∀ f, r = .error f → (t.attempts = [] ∧ v.sink = w.sink) ∨ ∃ q, t.attempts = [⟨q, .error f⟩] := by
  refine ⟨g.runEnum_mirrors schema table nameField valueField, ?_⟩
  obtain ⟨r, s', k', requests, attempts, hcourse, hreaches⟩ := g.runEnum_course schema table
    nameField valueField w.catalog.1 w.sink.1 w.catalog.2 w.sink.2
  obtain ⟨entries, hrun⟩ := hreaches [] w rfl rfl
  refine ⟨r, _, ⟨requests, attempts, entries.map Entry.event⟩, hrun, ?_, hcourse.rows_asked_iff,
    fun _ _ => hcourse.unknown_field, ?_, ?_⟩
  · ext1
    · rfl
    · rfl
    · exact List.map_append
  · intro rows hrows source
    exact hcourse.checks_rows (e := source) hrows
  · rintro f rfl
    rcases hcourse.sink_of_error with ⟨rfl, rfl⟩ | hsink
    · exact .inl ⟨rfl, by rw [List.append_nil]⟩
    · exact .inr hsink

end Generator

end EntityClasses
