import StyleTrim.Json.Token
namespace StyleTrim

-- A list or object that is not closed yet, with what it holds so far, latest first. A field
-- waits for the value of its key.
inductive Json.Open where
  | list (items : List Json)
  | object (fields : List (Option Text × Json))
  | field (fields : List (Option Text × Json)) (key : Option Text)

inductive Json.Place where
  | value
  | itemOrEnd
  | keyOrEnd
  | key
  | colon
  | commaOrEnd

inductive Json.Step where
  | further (around : List Json.Open) (place : Json.Place)
  | finished (value : Json)
  | wrong

namespace Json

def put (value : Json) : List Open → Step
  | [] => .finished value
  | .list items :: around => .further (.list (value :: items) :: around) .commaOrEnd
  | .field fields key :: around => .further (.object ((key,value) :: fields) :: around) .commaOrEnd
  | .object _ :: _ => .wrong

def begin (around : List Open) : Token → Step
  | .mark '[' => .further (.list [] :: around) .itemOrEnd
  | .mark '\x7b' => .further (.object [] :: around) .keyOrEnd
  | .text (some s) => put (.text s) around
  | .text none => put .unreadable around
  | .scalar value => put value around
  | .mark _ | .stray => .wrong

def beginKey (around : List Open) : Token → Step
  | .text key => match around with
    | .object fields :: outer => .further (.field fields key :: outer) .colon
    | _ => .wrong
  | _ => .wrong

def close (mark : Char) : List Open → Step
  | .list items :: around => if mark = ']' then put (.list items.reverse true) around else .wrong
  | .object fields :: around => if mark = '\x7d' then put (.object fields.reverse true) around else .wrong
  | _ => .wrong

def step (around : List Open) (place : Place) (t : Token) : Step :=
  match place, t with
  | .itemOrEnd, .mark ']' => close ']' around
  | .value, t | .itemOrEnd, t => begin around t
  | .keyOrEnd, .mark '\x7d' => close '\x7d' around
  | .key, t | .keyOrEnd, t => beginKey around t
  | .colon, .mark ':' => .further around .value
  | .commaOrEnd, .mark ',' => match around with
    | .list _ :: _ => .further around .value
    | _ => .further around .key
  | .commaOrEnd, .mark c => close c around
  | _, _ => .wrong

-- Everything that was begun, with a broken value where the next one should be.
def abandon (value : Json) : List Open → Json
  | [] => value
  | .list items :: around => abandon (.list (value :: items).reverse false) around
  | .object fields :: around => abandon (.object fields.reverse false) around
  | .field fields key :: around => abandon (.object ((key,value) :: fields).reverse false) around

def ofTokens (around : List Open) (place : Place) : List Token → Json × List Token
  | [] => (abandon .broken around,[])
  | t :: more => match step around place t with
    | .further around place => ofTokens around place more
    | .finished value => (value,more)
    | .wrong => (abandon .broken around,t :: more)

def read (s : Text) : Json × Bool :=
  let (value,rest) := ofTokens [] .value (tokens s)
  (value,rest.isEmpty)

end Json
end StyleTrim
