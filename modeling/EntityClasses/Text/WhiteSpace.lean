import EntityClasses.Text.CodeTable

/-!
# White space

The Unicode property `White_Space`, and cutting text at it.
-/
namespace EntityClasses

def blankRanges : List (Nat × Nat) :=
  [(9, 13), (32, 32), (133, 133), (160, 160), (5760, 5760), (8192, 8202), (8232, 8233), (8239,
   8239), (8287, 8287), (12288, 12288)]

def isBlank (c : Char) : Bool :=
  inRanges blankRanges c.toNat

def trimLeft (s : List Char) : List Char :=
  s.dropWhile isBlank

def trimRight (s : List Char) : List Char :=
  (s.reverse.dropWhile isBlank).reverse

def trim (s : List Char) : List Char :=
  trimRight (trimLeft s)

/-- The characters up to the first blank, leading blanks left out. -/
def firstWord (s : List Char) : List Char :=
  (trimLeft s).takeWhile (!isBlank ·)

end EntityClasses
