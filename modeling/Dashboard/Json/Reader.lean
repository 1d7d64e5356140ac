/-
  Dashboard.Json.Reader
  ─────────────────────
  From lexemes to a value.

  The reader keeps a stack of the containers that are open, innermost first.
  Each lexeme moves it one step, so reading is one pass over the lexemes.  No
  more than 127 containers may be open at once.

  `readWritten` gives the members of each object as they were written,
  `readNormal` in their normal form.
-/
import Dashboard.Json.Token

namespace Dashboard.Json

/-! ## §1. The stack. -/

/-- An open container with what it holds so far, newest first. -/
inductive Frame where
  /-- A list, expecting an item (or its end, when it is empty) or a comma. -/
  | list (items : List Value)
  /-- An object between members. -/
  | object (members : Members)
  /-- An object after a key and its colon. -/
  | member (key : String) (members : Members)

/-- What may come next. -/
inductive Mode where
  /-- A value must come. -/
  | value
  /-- The first item of a list, or its end. -/
  | firstItem
  /-- The first key of an object, or its end. -/
  | firstKey
  /-- A key must come. -/
  | key
  /-- The colon after the key. -/
  | colon (key : String)
  /-- A comma or the end of the innermost container; or the end of the text. -/
  | next
  deriving DecidableEq, Repr

/-- The state of reading: what may come next, the open containers, and the
whole value once it is complete. -/
structure Reading where
  mode : Mode
  stack : List Frame
  result : Option Value

/-- The greatest number of open containers. -/
def nestingLimit : Nat := 127

/-- A complete value was read: hand it to the innermost container. -/
def Reading.supply (r : Reading) (v : Value) : Option Reading :=
  match r.stack with
  | [] => some ⟨.next, [], some v⟩
  | .list items :: rest => some ⟨.next, .list (v :: items) :: rest, none⟩
  | .member k m :: rest => some ⟨.next, .object ((k, v) :: m) :: rest, none⟩
  | .object _ :: _ => none

/-- Open a container, within the limit. -/
def Reading.open? (r : Reading) (mode : Mode) (f : Frame) : Option Reading :=
  if r.stack.length < nestingLimit then some ⟨mode, f :: r.stack, none⟩ else none

/-- Close the innermost container. -/
def Reading.close? (r : Reading) (list : Bool) : Option Reading :=
  match r.stack with
  | .list items :: rest =>
    if list then Reading.supply ⟨.next, rest, none⟩ (.list items.reverse) else none
  | .object m :: rest =>
    if list then none else Reading.supply ⟨.next, rest, none⟩ (.object m.reverse)
  | _ => none

/-- A lexeme where a value may begin. -/
def Reading.begin? (r : Reading) : Token → Option Reading
  | .openList => r.open? .firstItem (.list [])
  | .openObject => r.open? .firstKey (.object [])
  | .null => r.supply .null
  | .bool b => r.supply (.bool b)
  | .number n => r.supply (.number n)
  | .text s => r.supply (.text s)
  | _ => none

/-- A comma after a complete item or member. -/
def Reading.comma? (r : Reading) : Option Reading :=
  match r.stack with
  | .list _ :: _ => some ⟨.value, r.stack, none⟩
  | .object _ :: _ => some ⟨.key, r.stack, none⟩
  | _ => none

/-- The colon after a key. -/
def Reading.colon? (r : Reading) (key : String) : Option Reading :=
  match r.stack with
  | .object m :: rest => some ⟨.value, .member key m :: rest, none⟩
  | _ => none

/-- One lexeme. -/
def Reading.step (r : Reading) (t : Token) : Option Reading :=
  match r.mode, t with
  | .value, t => r.begin? t
  | .firstItem, .closeList => r.close? true
  | .firstItem, t => r.begin? t
  | .firstKey, .closeObject => r.close? false
  | .firstKey, .text s | .key, .text s => some ⟨.colon s, r.stack, none⟩
  | .colon s, .colon => r.colon? s
  | .next, .comma => r.comma?
  | .next, .closeList => r.close? true
  | .next, .closeObject => r.close? false
  | _, _ => none

/-- A run of lexemes. -/
def Reading.run (r : Reading) : List Token → Option Reading
  | [] => some r
  | t :: ts => (r.step t).bind fun r => r.run ts

/-! ## §2. Whole texts. -/

/-- The one value of a lexeme sequence. -/
def ofTokens? (ts : List Token) : Option Value :=
  ((Reading.mk .value [] none).run ts).bind (·.result)

/-- The value of a JSON text, members as written. -/
def readWritten (s : String) : Option Value := (lex s.toList).bind ofTokens?

/-- The value of a JSON text in normal form. -/
def readNormal (s : String) : Option Value := (readWritten s).map Value.normalize

end Dashboard.Json
