/-!
# Request methods

A method is recognised by the upper-case form of its text.  Upper-casing follows Unicode, so a few
characters outside ASCII have upper-case forms made of ASCII letters.
-/

namespace WebDispatch

/-- The request methods that routes can be registered for. -/
inductive Method where
  | get | post | put | delete | patch | head | options
  deriving DecidableEq, Repr

namespace Method

/-- All methods. -/
def all : List Method := [get, post, put, delete, patch, head, options]

/-- The name of a method. -/
def name : Method → String
  | get => "GET"
  | post => "POST"
  | put => "PUT"
  | delete => "DELETE"
  | patch => "PATCH"
  | head => "HEAD"
  | options => "OPTIONS"

/-- The upper-case form of a character, as far as it consists of ASCII letters; every other
character stands for itself. -/
def capitals (c : Char) : List Char :=
  match c.toNat with
  | 0xDF => ['S', 'S']
  | 0x131 => ['I']
  | 0x17F => ['S']
  | 0xFB00 => ['F', 'F']
  | 0xFB01 => ['F', 'I']
  | 0xFB02 => ['F', 'L']
  | 0xFB03 => ['F', 'F', 'I']
  | 0xFB04 => ['F', 'F', 'L']
  | 0xFB05 => ['S', 'T']
  | 0xFB06 => ['S', 'T']
  | _ => [c.toUpper]

/-- The method whose name is the upper-case form of a text. -/
def ofString? (s : String) : Option Method :=
  let upper := s.toList.flatMap capitals
  all.find? fun method => method.name.toList == upper

end Method
end WebDispatch
