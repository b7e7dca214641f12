import EntityClasses.Artifact
import EntityClasses.Class.JavaScript
import EntityClasses.Class.Php

/-!
# Class files

The class of an entity, written in a dialect.
-/
namespace EntityClasses

def Dialect.classLines (d : Dialect) (c : Config) (l : ClassLayout) : List String :=
  match d with
  | .php => Php.classLines c l
  | .javaScript => JavaScript.classLines c l

def ClassLayout.render (l : ClassLayout) (d : Dialect) (c : Config) : String :=
  let text := unlines (d.classLines c l)
  match c.dedup with
  | .imports => text
  | .allLines => .ofList (dropRepeatedLines text.toList)

def ClassLayout.artifact (l : ClassLayout) (d : Dialect) (c : Config) : Artifact :=
  ⟨l.className, d.extension, l.render d c⟩

def classArtifact (d : Dialect) (c : Config) (e : Entity) : Except Failure Artifact :=
  (ClassLayout.build d c e).map (·.artifact d c)

end EntityClasses
