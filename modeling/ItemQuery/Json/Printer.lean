import ItemQuery.Json.Text

/-! Writing values, without space between tokens. -/

set_option autoImplicit false

namespace ItemQuery.Json

def Scalar.written : Scalar → List Char
  | .null => ['n', 'u', 'l', 'l']
  | .flag true => ['t', 'r', 'u', 'e']
  | .flag false => ['f', 'a', 'l', 's', 'e']
  | .integer value => (toString value).toList
  | .real value => value.shortestText.toList
  | .text value => writtenText value

namespace Value

mutual

def written : Value → List Char
  | .scalar value => value.written
  | .list [] => ['[', ']']
  | .list (item :: items) => '[' :: (item.written ++ writtenItems items)
  | .object [] => ['\x7b', '\x7d']
  | .object ((key, item) :: members) => '\x7b' :: (writtenText key ++ ':' :: (item.written ++ writtenMembers members))

def writtenItems : List Value → List Char
  | [] => [']']
  | item :: items => ',' :: (item.written ++ writtenItems items)

def writtenMembers : List (String × Value) → List Char
  | [] => ['\x7d']
  | (key, item) :: members => ',' :: (writtenText key ++ ':' :: (item.written ++ writtenMembers members))

end

def render (found : Value) : String := String.ofList found.written

end Value

end ItemQuery.Json
