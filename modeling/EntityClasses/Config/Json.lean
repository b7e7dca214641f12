import EntityClasses.Casing.Spelling
import EntityClasses.Config
import EntityClasses.Dialect
import EntityClasses.Json.Decode
import EntityClasses.Json.Encode

/-!
# Settings in JSON

A configuration is an object in which every field may be left out. Casings and dialects may be
spelled in any way that names them; the other options have fixed names.
-/
namespace EntityClasses

open Json (Decoder RecordField)

def Casing.toJson (k : Casing) : Json :=
  .text k.name

def Casing.decoder : Decoder Casing :=
  .option Casing.parse

def Dialect.toJson : Dialect → Json
  | .php => .text "php"
  | .javaScript => .text "java_script"

def Dialect.decoder : Decoder Dialect :=
  .option Dialect.parse

namespace ConstructorForm

def name : ConstructorForm → String
  | positional => "positional"
  | dictionary => "dictionary"

def toJson (s : ConstructorForm) : Json :=
  .text s.name

def decoder : Decoder ConstructorForm :=
  .variant [("positional", positional), ("dictionary", dictionary), ("array", dictionary)]

end ConstructorForm

namespace Dedup

def name : Dedup → String
  | imports => "imports"
  | allLines => "all_lines"

def toJson (s : Dedup) : Json :=
  .text s.name

def decoder : Decoder Dedup :=
  .variant [("imports", imports), ("all_lines", allLines)]

end Dedup

namespace Config

def fields : List (RecordField Config) :=
  [.of false "field_casing" Casing.decoder fun v c => { c with fieldCasing := v },
   .of false "class_casing" Casing.decoder fun v c => { c with classCasing := v },
   .of false "strip_plural" .bool fun v c => { c with stripPlural := v },
   .of false "parse_constraints" .bool fun v c => { c with parseConstraints := v },
   .of false "include_imports" .bool fun v c => { c with includeImports := v },
   .of false "shared_namespace" .bool fun v c => { c with sharedNamespace := v },
   .of false "constructor" ConstructorForm.decoder fun v c => { c with constructorForm := v },
   .of false "overwrite" .bool fun v c => { c with overwrite := v },
   .of false "always_nullable" .bool fun v c => { c with alwaysNullable := v },
   .of false "allow_dynamic_properties" .bool fun v c => { c with allowDynamicProperties := v },
   .of false "ignored_databases" (.list .text) fun v c =>
     { c with ignoredDatabases := .ofList (v.map (·, ())) },
   .of false "save_after_create" .bool fun v c => { c with saveAfterCreate := v },
   .of false "namespace" .text fun v c => { c with nameSpace := v },
   .of false "output_dir" .text fun v c => { c with outputDir := v },
   .of false "enum_helpers" .bool fun v c => { c with enumHelpers := v },
   .of false "line_dedup" Dedup.decoder fun v c => { c with dedup := v }]

def decoder : Decoder Config :=
  .record fields default

def toJson (c : Config) : Json :=
  .object
    [("field_casing", c.fieldCasing.toJson),
     ("class_casing", c.classCasing.toJson),
     ("strip_plural", .bool c.stripPlural),
     ("parse_constraints", .bool c.parseConstraints),
     ("include_imports", .bool c.includeImports),
     ("shared_namespace", .bool c.sharedNamespace),
     ("constructor", c.constructorForm.toJson),
     ("overwrite", .bool c.overwrite),
     ("always_nullable", .bool c.alwaysNullable),
     ("allow_dynamic_properties", .bool c.allowDynamicProperties),
     ("ignored_databases", .array (c.ignoredDatabases.keys.map .text)),
     ("save_after_create", .bool c.saveAfterCreate),
     ("namespace", .text c.nameSpace),
     ("output_dir", .text c.outputDir),
     ("enum_helpers", .bool c.enumHelpers),
     ("line_dedup", c.dedup.toJson)]

def parse (text : String) : Except Json.Fault Config :=
  decoder.run text

end Config

end EntityClasses
