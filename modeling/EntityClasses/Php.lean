import EntityClasses.Config

/-!
# What PHP files have in common
-/
namespace EntityClasses.Php

/-- The start of a file, up to its namespace. -/
def opening (c : Config) : List String :=
  ["<?php", ""] ++ if c.nameSpace.isEmpty then [] else ["namespace " ++ c.nameSpace ++ ";", ""]

end EntityClasses.Php
