import SearchCollection.Json.Token

/-! # Reading JSON

`Json.read?` reads a text that holds one JSON tree and blanks around it. The
tokens are taken one at a time; between two tokens stand the containers that are
still open (`Frame`) and what may come next (`Expected`). Of several members with
one key the last one counts, and the members are kept in key order. A text with
more than `maxDepth` containers inside each other is refused.
-/

namespace SearchCollection.Json

/-- The number of containers that may stand inside each other. -/
def maxDepth : Nat := 127

/-- A container that is still open. -/
inductive Frame where
  /-- An array, with its items so far from the last to the first. -/
  | items (before : List Json)
  /-- An object that waits for the value of a key. -/
  | member (before : Entries Json) (key : String)

/-- What may come next. -/
inductive Expected where
  | value
  /-- A value, or the end of the array just opened. -/
  | valueOrClose
  | key (before : Entries Json)
  /-- A key, or the end of the object just opened. -/
  | keyOrClose
  | colon (before : Entries Json) (key : String)
  /-- A comma or the end of the innermost container; a value has just ended. -/
  | afterValue (value : Json)

/-- How far a text has been read. -/
structure Progress where
  /-- The open containers, the innermost first. -/
  frames : List Frame
  expected : Expected

namespace Progress

/-- Before the first token. -/
def start : Progress := ⟨[], .value⟩

/-- A value begins with this token. -/
def beginValue? (frames : List Frame) : Token → Option Progress
  | .literal value => some ⟨frames, .afterValue value⟩
  | .openArray => if frames.length < maxDepth then some ⟨.items [] :: frames, .valueOrClose⟩ else none
  | .openObject => if frames.length < maxDepth then some ⟨frames, .keyOrClose⟩ else none
  | _ => none

/-- A value has ended, and this token follows it. -/
def endValue? (value : Json) : List Frame → Token → Option Progress
  | .items before :: frames, .comma => some ⟨.items (value :: before) :: frames, .value⟩
  | .items before :: frames, .closeArray =>
      some ⟨frames, .afterValue (.array (value :: before).reverse)⟩
  | .member before key :: frames, .comma => some ⟨frames, .key (before.insert key value)⟩
  | .member before key :: frames, .closeObject =>
      some ⟨frames, .afterValue (.object (before.insert key value))⟩
  | _, _ => none

/-- One token further. -/
def step? (progress : Progress) (token : Token) : Option Progress :=
  match progress.expected, token with
  | .valueOrClose, .closeArray => some ⟨progress.frames.tail, .afterValue (.array [])⟩
  | .keyOrClose, .closeObject => some ⟨progress.frames, .afterValue (.object [])⟩
  | .value, token => beginValue? progress.frames token
  | .valueOrClose, token => beginValue? progress.frames token
  | .key before, .literal (.string key) => some ⟨progress.frames, .colon before key⟩
  | .keyOrClose, .literal (.string key) => some ⟨progress.frames, .colon [] key⟩
  | .colon before key, .colon => some ⟨.member before key :: progress.frames, .value⟩
  | .afterValue value, token => endValue? value progress.frames token
  | _, _ => none

/-- The tree, when it is complete. -/
def finish? : Progress → Option Json
  | ⟨[], .afterValue value⟩ => some value
  | _ => none

end Progress

/-- The tree of a text, if the text is JSON. -/
def read? (text : String) : Option Json := do
  let tokens ← Token.ofChars? text.toList
  let progress ← tokens.foldlM Progress.step? .start
  progress.finish?

end SearchCollection.Json
