import EntityClasses.Json.Tree

/-!
# Reading JSON

The text is read character by character. The state holds the containers that are open, the
innermost first, and the place within the innermost one. Once a fault is found the open containers
are closed around it and the rest of the text is not read.
-/
namespace EntityClasses.Json

/-- An open container with what it holds so far, the latest first. -/
inductive Frame
  | items (read : List Tree)
  /-- `key` belongs to the member that is being read. -/
  | members (read : List (Option String × Tree)) (key : Option String)

inductive Place
  /-- In front of a value; `first` if the array may also be closed. -/
  | value (first : Bool)
  | key (first : Bool)
  | colon
  /-- Behind a value in a container. -/
  | separator
  | word (read : List Char)
  | text (isKey : Bool) (read : List Char) (escaped : Bool)

inductive Reading
  | within (stack : List Frame) (place : Place)
  /-- Behind the last value. -/
  | complete (t : Tree)
  /-- A fault was found. -/
  | stopped (t : Tree)

namespace Reading

/-- Closes all open containers behind a last value. -/
def close (t : Tree) : List Frame → Tree
  | [] => t
  | .items read :: rest => close (.array (t :: read).reverse) rest
  | .members read key :: rest => close (.object ((key, t) :: read).reverse) rest

def stop (stack : List Frame) : Reading :=
  .stopped (close .broken stack)

/-- Puts a value in its place. -/
def push (t : Tree) : List Frame → Reading
  | [] => .complete t
  | .items read :: rest => .within (.items (t :: read) :: rest) .separator
  | .members read key :: rest => .within (.members ((key, t) :: read) none :: rest) .separator

def isSpace (c : Char) : Bool :=
  c = ' ' || c = '\t' || c = '\n' || c = '\r'

def isWordPart (c : Char) : Bool :=
  c.isAlphanum || c = '-' || c = '+' || c = '.'

def startValue (stack : List Frame) (c : Char) : Reading :=
  if c = '[' then .within (.items [] :: stack) (.value true)
  else if c = '{' then .within (.members [] none :: stack) (.key true)
  else if c = '"' then .within stack (.text false [] false)
  else if isWordPart c then .within stack (.word [c])
  else stop stack

/-- A character behind a value. -/
def endValue (stack : List Frame) (c : Char) : Reading :=
  match stack with
  | [] => stop []
  | .items read :: rest =>
    if isSpace c then .within stack .separator
    else if c = ',' then .within stack (.value false)
    else if c = ']' then push (.array read.reverse) rest
    else stop stack
  | .members read _ :: rest =>
    if isSpace c then .within stack .separator
    else if c = ',' then .within stack (.key false)
    else if c = '}' then push (.object read.reverse) rest
    else stop stack

def atValue (stack : List Frame) (first : Bool) (c : Char) : Reading :=
  if isSpace c then .within stack (.value first)
  else
    match stack with
    | .items _ :: rest => if first && c = ']' then push (.array []) rest else startValue stack c
    | _ => startValue stack c

def atKey (stack : List Frame) (first : Bool) (c : Char) : Reading :=
  if isSpace c then .within stack (.key first)
  else if c = '"' then .within stack (.text true [] false)
  else
    match stack with
    | .members _ _ :: rest => if first && c = '}' then push (.object []) rest else stop stack
    | _ => stop stack

def atColon (stack : List Frame) (c : Char) : Reading :=
  if isSpace c then .within stack .colon
  else if c = ':' then .within stack (.value false)
  else stop stack

/-- A character behind the whole document. -/
def behind (t : Tree) (c : Char) : Reading :=
  if isSpace c then .complete t else .stopped t

def endWord (stack : List Frame) (read : List Char) : Reading :=
  match Tree.ofWord? read.reverse with
  | some t => push t stack
  | none => stop stack

def endText (stack : List Frame) (isKey : Bool) (read : List Char) : Reading :=
  match Tree.ofLiteral read.reverse with
  | none => stop stack
  | some s =>
    if isKey then
      match stack with
      | .members ms _ :: rest => .within (.members ms s :: rest) .colon
      | _ => stop stack
    else push (.text s) stack

/-- A character where a value has just ended, in a container or behind all of them. -/
def afterValue : Reading → Char → Reading
  | .within stack .separator, c => endValue stack c
  | .complete t, c => behind t c
  | st, _ => st

def step : Reading → Char → Reading
  | .within stack (.value first), c => atValue stack first c
  | .within stack (.key first), c => atKey stack first c
  | .within stack .colon, c => atColon stack c
  | .within stack .separator, c => endValue stack c
  | .within stack (.word read), c =>
    if isWordPart c then .within stack (.word (c :: read)) else afterValue (endWord stack read) c
  | .within stack (.text isKey read escaped), c =>
    if escaped then .within stack (.text isKey (c :: read) false)
    else if c = '"' then endText stack isKey read
    else .within stack (.text isKey (c :: read) (c = '\\'))
  | .complete t, c => behind t c
  | .stopped t, _ => .stopped t

/-- What the text amounts to when it ends here. -/
def finish : Reading → Document
  | .within [] (.word read) =>
    match Tree.ofWord? read.reverse with
    | some t => ⟨t, true⟩
    | none => ⟨.broken, false⟩
  | .within stack _ => ⟨close .broken stack, false⟩
  | .complete t => ⟨t, true⟩
  | .stopped t => ⟨t, false⟩

end Reading

def Document.read (text : List Char) : Document :=
  (text.foldl Reading.step (.within [] (.value false))).finish

end EntityClasses.Json
