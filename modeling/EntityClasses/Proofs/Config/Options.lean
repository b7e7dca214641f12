import EntityClasses.Proofs.Config.Members

/-!
# Options stored and loaded again

An option is read from any of its spellings and stored in one form. Casings, forms of constructors
and kinds of deduplication are read back from that form as what they were. Of the dialects only PHP
is: the form in which JavaScript is stored names no dialect.
-/
namespace EntityClasses

open Json (Decoder Fault)
open Json.Decoder

namespace Json.Decoder

variable {α : Type} {d : Decoder α} {write : α → Json}

/-- What comes of an option that is read from a text, stored and loaded again. -/
def reload (d : Decoder α) (write : α → Json) (text : String) : Except Fault α :=
  d.run text >>= fun v => d.run (write v).encode

theorem reload_of_ok {text : String} {v : α} (h : d.run text = .ok v) :
    d.reload write text = d.run (write v).encode := by
  rw [reload, h]
  rfl

theorem reload_of_error {text : String} {f : Fault} (h : d.run text = .error f) :
    d.reload write text = .error f := by
  rw [reload, h]
  rfl

theorem run_encode_of_restores {v : α} (h : Restores d write v) (hfloat : (write v).FloatFree)
    (hdepth : (write v).depth ≤ depthLimit) : d.run (write v).encode = .ok v :=
  run_encode hfloat (h depthLimit hdepth)

/-- The text is read again as what it was, if that is how its stored form is read. -/
theorem reload_eq_run {text : String} (h : ∀ v, d.run text = .ok v →
    d.run (write v).encode = .ok v) : d.reload write text = d.run text := by
  cases hread : d.run text with
  | error f => exact reload_of_error hread
  | ok v => rw [reload_of_ok hread, h v hread]

end Json.Decoder

theorem Dialect.restores_php : Restores Dialect.decoder Dialect.toJson .php := by
  have hparse : Dialect.parse "php" = .ok .php := by decide +kernel
  intro n _
  rw [Dialect.decoder, Dialect.toJson, Json.tree, option, hparse]
  rfl

/-- The form in which JavaScript is stored names no dialect. -/
theorem Dialect.run_encode_javaScript : Dialect.decoder.run Dialect.javaScript.toJson.encode =
    .error (.unknownOption ⟨.dialect, "java_script"⟩) := by
  have hparse : Dialect.parse "java_script" = .error ⟨.dialect, "java_script"⟩ := by
    decide +kernel
  have hfloat : Dialect.javaScript.toJson.FloatFree := .text _
  rw [run_encode_eq _ hfloat]
  change option Dialect.parse _ (.text (some "java_script")) = _
  rw [option, hparse]
  rfl

theorem Dialect.reload_eq_run_iff (text : String) :
    Dialect.decoder.reload Dialect.toJson text = Dialect.decoder.run text ↔
      Dialect.decoder.run text ≠ .ok .javaScript := by
  constructor
  · intro h hread
    rw [reload_of_ok hread, Dialect.run_encode_javaScript, hread] at h
    cases h
  · intro hne
    refine reload_eq_run fun v hread => ?_
    cases v with
    | php => exact run_encode_of_restores Dialect.restores_php (.text _) (Nat.zero_le _)
    | javaScript => exact absurd hread hne

/-- Whatever text an option is read from, loading its stored form gives the same option, except
that the stored form of JavaScript is refused. -/
theorem reload_options (text : String) :
    Casing.decoder.reload Casing.toJson text = Casing.decoder.run text ∧
    ConstructorForm.decoder.reload ConstructorForm.toJson text =
      ConstructorForm.decoder.run text ∧
    Dedup.decoder.reload Dedup.toJson text = Dedup.decoder.run text ∧
    (Dialect.decoder.reload Dialect.toJson text = Dialect.decoder.run text ↔
      Dialect.decoder.run text ≠ .ok .javaScript) ∧
    (Dialect.decoder.run text = .ok .javaScript →
      Dialect.decoder.reload Dialect.toJson text =
        .error (.unknownOption ⟨.dialect, "java_script"⟩)) := by
  refine ⟨?_, ?_, ?_, Dialect.reload_eq_run_iff text, ?_⟩
  · exact reload_eq_run fun k _ => run_encode_of_restores k.restores (.text _) (Nat.zero_le _)
  · exact reload_eq_run fun s _ => run_encode_of_restores s.restores (.text _) (Nat.zero_le _)
  · exact reload_eq_run fun s _ => run_encode_of_restores s.restores (.text _) (Nat.zero_le _)
  · intro hread
    rw [reload_of_ok hread, Dialect.run_encode_javaScript]

/-- A spelling of JavaScript that cannot be stored and loaded again. -/
theorem javaScript_not_reloaded :
    Dialect.decoder.run "\"js\"" = .ok .javaScript ∧
      Dialect.javaScript.toJson.encode = "\"java_script\"" ∧
      Dialect.decoder.run "\"java_script\"" =
        .error (.unknownOption ⟨.dialect, "java_script"⟩) := by
  decide +kernel

end EntityClasses
