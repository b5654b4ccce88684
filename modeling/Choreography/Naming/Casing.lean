/-!
# Identifiers made from free text

Names and events are free text. `words` finds the ASCII words in a text, in lower case, and a
`Casing` puts them together again: `user_created`, `user-created` or `UserCreated`.

Every casing answers with a text that is not empty and starts with an ASCII letter.
-/

namespace Choreography

namespace Naming

/-- Two neighbouring characters belong to one word: both are ASCII letters or digits, and the
second is not a capital behind a small letter or a digit. -/
def joins (c next : Char) : Bool :=
  next.isAlphanum && !(next.isUpper && (c.isLower || c.isDigit))

/-- The words of a text in lower case. Whatever is no ASCII letter or digit separates words, and
so does the step from a small letter or digit to a capital. -/
def words : List Char → List (List Char)
  | [] => []
  | c :: rest =>
    if c.isAlphanum then
      match rest.head?, words rest with
      | some next, word :: more =>
        if joins c next then (c.toLower :: word) :: more else [c.toLower] :: word :: more
      | _, more => [c.toLower] :: more
    else words rest

/-- The word with a capital first letter. -/
def capitalized : List Char → List Char
  | [] => []
  | c :: rest => c.toUpper :: rest

/-- How the words of a name are put together. -/
structure Casing where
  /-- Stands between two words. -/
  separator : String
  /-- Every word begins with a capital. -/
  capitals : Bool
  /-- The name of a text without words; it also goes in front of a name that would start with a
  digit. -/
  fallback : String

/-- `order_service` -/
def Casing.snake : Casing := ⟨"_", false, "service"⟩

/-- `order-service` -/
def Casing.kebab : Casing := ⟨"-", false, "service"⟩

/-- `OrderService` -/
def Casing.pascal : Casing := ⟨"", true, "Service"⟩

/-- The words of a text as a casing writes them. -/
def Casing.parts (casing : Casing) (text : List Char) : List (List Char) :=
  if casing.capitals then (words text).map capitalized else words text

/-- The characters of the name that a casing makes from a text. -/
def Casing.nameChars (casing : Casing) (text : List Char) : List Char :=
  match casing.separator.toList.intercalate (casing.parts text) with
  | [] => casing.fallback.toList
  | c :: rest =>
    if c.isDigit then casing.fallback.toList ++ casing.separator.toList ++ c :: rest
    else c :: rest

/-- The name that a casing makes from a text. -/
def Casing.name (casing : Casing) (text : String) : String :=
  String.ofList (casing.nameChars text.toList)

end Naming

end Choreography
