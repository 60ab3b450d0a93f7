import NotionProject.Json.Token

/-!
# A JSON text as far as it can be read

A value is read from left to right, and what is asked of its parts depends on who reads:
a part that nobody needs is only skipped, and an error in the text counts where the reader
comes to it. A `Source` is therefore a value together with everything that may go wrong on
the way through its text: numbers and strings that have no value, containers nested too
deeply to be read, and the fault that ends the text.

`Source.ofText` reads a text, by a machine that takes one token at a time. `Source.skip`
and `Source.toJson` are the two ways through a source. `Source.ofJson` is the source of a
value that needs no reading.
-/

namespace NotionProject

/-- A value in a text, with what can go wrong in it. A container may end in a fault of its
own; `deep` marks one that is nested too deeply to be read, and `broken` stands where a
value was to come. -/
inductive Source where
  | null
  | bool (b : Bool)
  | number (n : Except TextError Number)
  | string (s : Except TextError String)
  | array (items : List Source) (fault : Option Fault)
  | object (members : List (Except TextError String × Source)) (fault : Option Fault)
  | deep (container : Source)
  | broken (fault : Fault)

namespace Source

instance : Inhabited Source := ⟨null⟩

/-! ## Reading a text -/

/-- A container that is still open, with its parts so far, last first. A member waits for
its value. -/
inductive Frame where
  | array (items : List Source)
  | object (members : List (Except TextError String × Source))
  | member (name : Except TextError String) (members : List (Except TextError String × Source))

/-- What the grammar asks for next. -/
inductive Place where
  | value
  | firstItem
  | nextItem
  | firstName
  | nextName
  | colon
  | after (value : Source)

/-- How many containers may be nested in each other and still be read. -/
def depthLimit : Nat := 127

/-- A container that ends within the open frames. -/
def close (container : Source) (frames : List Frame) : Source :=
  if frames.length < depthLimit then container else deep container

/-- The source of a text that breaks off at a part of the innermost open container. -/
def breakOff (part : Source) : List Frame → Source
  | [] => part
  | .array items :: frames => breakOff (close (array (part :: items).reverse none) frames) frames
  | .object members :: frames => breakOff (close (object members.reverse none) frames) frames
  | .member name members :: frames =>
    breakOff (close (object ((name, part) :: members).reverse none) frames) frames

/-- The source of a text that breaks off in the innermost open container, between its
parts. -/
def breakOpen (fault : Fault) : List Frame → Source
  | [] => broken fault
  | .array items :: frames => breakOff (close (array items.reverse (some fault)) frames) frames
  | .object members :: frames =>
    breakOff (close (object members.reverse (some fault)) frames) frames
  | .member name members :: frames =>
    breakOff (close (object ((name, broken fault) :: members).reverse none) frames) frames

/-- A value put into the innermost open container. -/
def putValue (value : Source) : List Frame → List Frame
  | .array items :: frames => .array (value :: items) :: frames
  | .member name members :: frames => .object ((name, value) :: members) :: frames
  | frames => frames

/-- What a token is where a value has to come: a whole value, the beginning of a container,
or a fault. -/
inductive Opening where
  | value (value : Source)
  | container (frame : Frame) (place : Place)
  | fault (fault : Fault)

/-- What a token is where a value has to come. -/
def opening : Token → Opening
  | .null => .value null
  | .bool b => .value (bool b)
  | .number n => .value (number n)
  | .string s => .value (string s)
  | .openArray => .container (.array []) .firstItem
  | .openObject => .container (.object []) .firstName
  | .broken fault => .fault fault
  | .brokenString fault => .fault fault
  | .closeArray => .fault (.plain .expectedValue)
  | .closeObject => .fault (.plain .expectedValue)
  | .comma => .fault (.plain .expectedValue)
  | .colon => .fault (.plain .expectedValue)

/-- What the end of the text means. -/
def faultAtEnd (place : Place) (frames : List Frame) : Fault :=
  match place with
  | .value => .plain .endInValue
  | .firstItem => .plain .endInList
  | .nextItem => .plain .endInValue
  | .firstName => .plain .endInObject
  | .nextName => ⟨.endInValue, .endInObject⟩
  | .colon => .plain .endInObject
  | .after _ =>
    match frames with
    | .array _ :: _ => .plain .endInList
    | _ => .plain .endInObject

/-- What comes of one token: the machine goes on, or the reading is over. The flag tells
whether anything follows the value. -/
inductive Step where
  | goOn (place : Place) (frames : List Frame)
  | stop (source : Source) (followed : Bool)

/-- A token where a value has to come. -/
def stepValue (frames : List Frame) (token : Token) : Step :=
  match opening token with
  | .value value => .goOn (.after value) frames
  | .container frame place => .goOn place (frame :: frames)
  | .fault fault => .stop (breakOff (broken fault) frames) false

/-- The end of the innermost open container, an array. -/
def closeArray (items : List Source) (frames : List Frame) : Step :=
  .goOn (.after (close (array items.reverse none) frames)) frames

/-- The end of the innermost open container, an object. -/
def closeObject (members : List (Except TextError String × Source)) (frames : List Frame) :
    Step :=
  .goOn (.after (close (object members.reverse none) frames)) frames

/-- A token after a value that has been put into the innermost open container. -/
def stepAfter (token : Token) : List Frame → Step
  | .array items :: frames =>
    match token with
    | .comma => .goOn .nextItem (.array items :: frames)
    | .closeArray => closeArray items frames
    | _ => .stop (breakOpen (.plain .expectedListEnd) (.array items :: frames)) false
  | .object members :: frames =>
    match token with
    | .comma => .goOn .nextName (.object members :: frames)
    | .closeObject => closeObject members frames
    | _ => .stop (breakOpen (.plain .expectedObjectEnd) (.object members :: frames)) false
  | frames => .stop (breakOpen (.plain .expectedObjectEnd) frames) false

/-- A token where a name has to come, unless it ends the object, which has the meaning
`atEnd`. -/
def stepName (atEnd : Step) (frames : List Frame) (token : Token) : Step :=
  match token, frames with
  | .string name, .object members :: frames => .goOn .colon (.member name members :: frames)
  | .closeObject, _ => atEnd
  | .brokenString fault, frames => .stop (breakOpen fault frames) false
  | _, frames => .stop (breakOpen (.plain .expectedKey) frames) false

/-- What comes of a token at a place within open containers. -/
def step (place : Place) (frames : List Frame) (token : Token) : Step :=
  match place, frames with
  | .after value, [] => .stop value true
  | .after value, frames => stepAfter token (putValue value frames)
  | .firstItem, .array items :: outer =>
    match token with
    | .closeArray => closeArray items outer
    | token => stepValue frames token
  | .nextItem, frames =>
    match token with
    | .closeArray => .stop (breakOpen ⟨.trailingComma, .expectedValue⟩ frames) false
    | token => stepValue frames token
  | .firstName, .object members :: outer => stepName (closeObject members outer) frames token
  | .nextName, frames =>
    stepName (.stop (breakOpen ⟨.trailingComma, .expectedKey⟩ frames) false) frames token
  | .colon, frames =>
    match token with
    | .colon => .goOn .value frames
    | _ => .stop (breakOpen (.plain .expectedColon) frames) false
  | _, frames => stepValue frames token

/-- What comes of the end of the text. -/
def stepEnd (place : Place) (frames : List Frame) : Source :=
  match place, frames with
  | .after value, [] => value
  | .after value, frames => breakOpen (faultAtEnd place frames) (putValue value frames)
  | place, frames => breakOpen (faultAtEnd place frames) frames

/-- Reads tokens from a place within open containers. The flag tells whether anything
follows the value. -/
def run (place : Place) (frames : List Frame) : List Token → Source × Bool
  | [] => (stepEnd place frames, false)
  | token :: rest =>
    match step place frames token with
    | .goOn place frames => run place frames rest
    | .stop source followed => (source, followed)

/-- The source of a text, and whether anything follows its value. -/
def ofText (text : String) : Source × Bool :=
  run .value [] (Token.list text.toList)

/-! ## Two ways through a source -/

mutual

/-- Passes over the value: only its form is looked at, at any depth. -/
def skip : Source → Except TextError Unit
  | null => .ok ()
  | bool _ => .ok ()
  | number _ => .ok ()
  | string _ => .ok ()
  | array items fault => do
    skipItems items
    skipFault fault
  | object members fault => do
    skipMembers members
    skipFault fault
  | deep container => skip container
  | broken fault => .error fault.skipping

/-- Passes over every item. -/
def skipItems : List Source → Except TextError Unit
  | [] => .ok ()
  | value :: rest => do
    skip value
    skipItems rest

/-- Passes over the value of every member. -/
def skipMembers : List (Except TextError String × Source) → Except TextError Unit
  | [] => .ok ()
  | (_, value) :: rest => do
    skip value
    skipMembers rest

/-- Passes over the end of a container. -/
def skipFault : Option Fault → Except TextError Unit
  | none => .ok ()
  | some fault => .error fault.skipping

end

/-- Reads the end of a container. -/
def endOf : Option Fault → Except TextError Unit
  | none => .ok ()
  | some fault => .error fault.reading

mutual

/-- Reads the whole value, in canonical form. -/
def toJson : Source → Except TextError Json
  | null => .ok .null
  | bool b => .ok (.bool b)
  | number n => n.map .number
  | string s => s.map .string
  | array items fault => do
    let values ← itemsToJson items
    endOf fault
    pure (.array values)
  | object members fault => do
    let values ← membersToJson members
    endOf fault
    pure (.object (Members.sorted values))
  | deep _ => .error .tooDeep
  | broken fault => .error fault.reading

/-- Reads every item. -/
def itemsToJson : List Source → Except TextError (List Json)
  | [] => .ok []
  | value :: rest => do
    let value ← toJson value
    let rest ← itemsToJson rest
    pure (value :: rest)

/-- Reads every member. -/
def membersToJson :
    List (Except TextError String × Source) → Except TextError (List (String × Json))
  | [] => .ok []
  | (name, value) :: rest => do
    let name ← name
    let value ← toJson value
    let rest ← membersToJson rest
    pure ((name, value) :: rest)

end

/-! ## Values that need no reading -/

mutual

/-- The source of a value in which nothing is wrong. -/
def ofJson : Json → Source
  | .null => null
  | .bool b => bool b
  | .number n => number (.ok n)
  | .string s => string (.ok s)
  | .array items => array (ofItems items) none
  | .object members => object (ofMembers members) none

/-- The sources of the items of an array. -/
def ofItems : List Json → List Source
  | [] => []
  | value :: rest => ofJson value :: ofItems rest

/-- The sources of the members of an object. -/
def ofMembers : List (String × Json) → List (Except TextError String × Source)
  | [] => []
  | (name, value) :: rest => (.ok name, ofJson value) :: ofMembers rest

end

end Source

/-- Reads a JSON text as a value in canonical form. -/
def Json.ofText (text : String) : Except TextError Json := do
  let (source, followed) := Source.ofText text
  let value ← source.toJson
  if followed then .error .trailingCharacters else pure value

end NotionProject
