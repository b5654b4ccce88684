import Choreography.Backend.RustLiteral
import Choreography.GeneratedFile
import Choreography.Naming.Casing
import Choreography.Naming.Unique

/-!
# Rust modules

Each service becomes a module with three constants (its name and the tables of its events) and two
traits: one with a handler for each operation, one with a sender for each call. `src/lib.rs`
declares the modules; no service module may take the name of a crate root. A file that would declare
something under a word that is no identifier is not rendered.

The layout is that of a formatter with a fixed line limit: a declaration that would be longer is
broken at its brackets. Texts of the services stand in comments, in block comments if they span
several lines, and in attributes where a block comment would end too early.
-/

namespace Choreography

namespace Rust

open Naming

/-- Words that nothing can be named. -/
def keywords : List String :=
  [ "_", "abstract", "as", "async", "await", "become", "box", "break", "const", "continue"
  , "crate", "do", "dyn", "else", "enum", "extern", "false", "final", "fn", "for", "if", "impl"
  , "in", "let", "loop", "macro", "match", "mod", "move", "mut", "override", "priv", "pub", "ref"
  , "return", "Self", "self", "static", "struct", "super", "trait", "true", "try", "type", "typeof"
  , "unsafe", "unsized", "use", "virtual", "where", "while", "yield" ]

/-- A character of an identifier. -/
def isWordChar (c : Char) : Bool := c.isAlphanum || c = '_'

/-- Something can be named by the word: it has word characters only, no digit in front, and is no
keyword. -/
def isIdentifier (word : String) : Bool :=
  !word.toList.isEmpty && !word.toList.head?.any Char.isDigit && word.toList.all isWordChar
    && word ∉ keywords

/-- The module name of a service; a word that is no identifier gets a suffix. -/
def moduleName (name : String) : String :=
  let snake := Casing.snake.name name
  if isIdentifier snake then snake else snake ++ "_service"

/-- The names of the service modules. -/
def moduleNames (services : List Service) : List String :=
  unique ["lib", "main"] (services.map (moduleName ·.name))

/-- The method names of a trait: a verb and the event. -/
def methodNames (verb : String) (events : List String) : List String :=
  unique [] (events.map fun event => verb ++ "_" ++ Casing.snake.name event)

/-! ## Layout -/

/-- The longest line, in bytes. -/
def lineLimit : Nat := 89

/-- A line at some depth, four blanks each. -/
def line (depth : Nat) (text : String) : String :=
  String.ofList (List.replicate (4 * depth) ' ') ++ text ++ "\n"

/-- The line fits. -/
def fits (depth : Nat) (text : String) : Bool :=
  4 * depth + text.utf8ByteSize ≤ lineLimit

/-- The text without the blanks at its end. -/
def trimEnd (cs : List Char) : List Char :=
  (cs.reverse.dropWhile (· = ' ')).reverse

/-- The text without the blanks in front of its line ends. -/
def trimLineEnds : List Char → List Char
  | [] => []
  | c :: rest =>
    let rest := trimLineEnds rest
    if c = ' ' && rest.head? = some '\n' then rest else c :: rest

/-- Every opening of a block comment is closed, and nothing is closed that was not opened. -/
def commentsNest : (depth : Nat) → List Char → Bool
  | depth, '/' :: '*' :: rest => commentsNest (depth + 1) rest
  | 0, '*' :: '/' :: _ => false
  | depth + 1, '*' :: '/' :: rest => commentsNest depth rest
  | depth, _ :: rest => commentsNest depth rest
  | depth, [] => depth = 0

/-- The comments and the attribute that document one thing. -/
structure DocStyle where
  lineComment : String
  blockComment : String
  attributeStart : String

/-- Documents what follows. -/
def DocStyle.outer : DocStyle := ⟨"///", "/**", "#[doc = "⟩

/-- Documents the module around it. -/
def DocStyle.inner : DocStyle := ⟨"//!", "/*!", "#![doc = "⟩

/-- A documentation text. -/
def doc (style : DocStyle) (depth : Nat) (text : String) : String :=
  let cs := text.toList
  if '\n' ∉ cs then
    line depth (String.ofList (trimEnd (style.lineComment.toList ++ cs)))
  else if commentsNest 0 cs && cs.getLast? ≠ some '/' then
    line depth (String.ofList (trimLineEnds (style.blockComment.toList ++ cs ++ "*/".toList)))
  else line depth (style.attributeStart ++ RustLiteral.quote text ++ "]")

/-- The declaration of a table of texts, on one line if it fits. -/
def table (name : String) (entries : List String) : String :=
  let literals := entries.map RustLiteral.quote
  let opening := "pub const " ++ name ++ ": &[&str] = &["
  let oneLine := opening ++ String.intercalate ", " literals ++ "];"
  if fits 0 oneLine then line 0 oneLine
  else line 0 opening ++ String.join (literals.map fun l => line 1 (l ++ ",")) ++ line 0 "];"

/-- The declaration of a method, on one line if it fits. -/
def method (name : String) : String :=
  let oneLine := "fn " ++ name ++ "(&mut self) -> Result<(), Self::Error>;"
  if fits 1 oneLine then line 1 oneLine
  else line 1 ("fn " ++ name ++ "(") ++ line 2 "&mut self,"
    ++ line 1 ") -> Result<(), Self::Error>;"

/-- A trait with one documented method for each event. -/
def eventTrait (name verb : String) (docText : String → String) (events : List String) : String :=
  line 0 ("pub trait " ++ name ++ " \x7b") ++ line 1 "type Error;"
    ++ String.join (((methodNames verb events).zip events).map fun (methodName, event) =>
      doc .outer 1 (docText event) ++ method methodName)
    ++ line 0 "\x7d"

/-! ## Files -/

/-- The first line of a file, and a blank one. -/
def head : String := "// " ++ generatedNotice ++ "\n\n"

/-- The documentation text of a service module. -/
def moduleDoc (s : Service) : String :=
  " Service `" ++ s.name ++ "` (`" ++ s.id.text ++ "`)."

/-- The documentation text of a handler. -/
def handlerDoc (event : String) : String := " Handle an inbound `" ++ event ++ "` event."

/-- The documentation text of a sender. -/
def senderDoc (event : String) : String := " Send a `" ++ event ++ "` event."

/-- The name of the trait with the handlers. -/
def operationsTrait (s : Service) : String := Casing.pascal.name s.name ++ "Operations"

/-- The name of the trait with the senders. -/
def callsTrait (s : Service) : String := Casing.pascal.name s.name ++ "Calls"

/-- The text of a service module. -/
def moduleText (s : Service) : String :=
  head
    ++ doc .inner 0 (moduleDoc s)
    ++ doc .outer 0 " Display name of this service."
    ++ line 0 ("pub const SERVICE: &str = " ++ RustLiteral.quote s.name ++ ";")
    ++ doc .outer 0 " Events this service receives."
    ++ table "OPERATIONS" s.operations
    ++ doc .outer 0 " Events this service sends."
    ++ table "CALLS" s.calls
    ++ doc .outer 0 " Inbound events handled by this service."
    ++ eventTrait (operationsTrait s) "on" handlerDoc s.operations
    ++ doc .outer 0 " Outbound events issued by this service."
    ++ eventTrait (callsTrait s) "send" senderDoc s.calls

/-- The file name of a module. -/
def moduleFilename (moduleName : String) : String := "src/" ++ moduleName ++ ".rs"

/-- The file of a service. -/
def moduleFile (s : Service) (moduleName : String) : GeneratedFile where
  filename := moduleFilename moduleName
  content := moduleText s
  service := some s.id

/-- The crate root of the given modules. -/
def rootFile (moduleNames : List String) : GeneratedFile where
  filename := moduleFilename "lib"
  content := head ++ String.join (moduleNames.map fun m => line 0 ("pub mod " ++ m ++ ";"))
  service := none

/-- The files of the services, in their order, and the crate root. -/
def files (services : List Service) : List GeneratedFile :=
  let names := moduleNames services
  (services.zip names).map (fun (s, name) => moduleFile s name) ++ [rootFile names]

/-! ## Declared words -/

/-- The words under which a service module declares its traits and their methods. -/
def declaredWords (s : Service) : List String :=
  operationsTrait s :: methodNames "on" s.operations
    ++ callsTrait s :: methodNames "send" s.calls

/-- What is said of a declared word that is no identifier. -/
def wordMessage (word : String) : String :=
  if word ∈ keywords then s!"expected identifier, found keyword `{word}`" else "expected identifier"

/-- The fault of a file that declares a word that is no identifier. -/
def wordFault? (filename : String) (words : List String) : Option CodegenError :=
  (words.find? (!isIdentifier ·)).map fun word => .render "rust" filename (wordMessage word)

/-- The first file that declares a word that is no identifier. The crate root comes last. -/
def renderFault? (services : List Service) : Option CodegenError :=
  let names := moduleNames services
  let declared := (services.zip names).map fun (s, name) => (moduleFilename name, declaredWords s)
  (declared ++ [(moduleFilename "lib", names)]).findSome? fun (filename, words) =>
    wordFault? filename words

/-- Renders services as Rust. -/
def adapter : Adapter where
  name := "rust"
  generate services :=
    match renderFault? services with
    | some fault => .error fault
    | none => .ok (files services)
  quoteEvent := RustLiteral.quote

end Rust

end Choreography
