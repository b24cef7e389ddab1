import Mathlib.Data.List.Basic

/-!
# Markup

Element trees as HTML text, with attribute values in single quotes and every text escaped as
Python's `html.escape` does it.

* `Token.write`, `lex`: tags and characters, and the tokenizer of the HTML syntax they use.
* `Node.tokens`, `build`: trees, and the stack of open elements.
* `read_write`: a written tree is read back, whatever its texts hold.
-/

namespace Markup

/-! ## Characters -/

/-- `html.escape` of one character. -/
def escapeChar (c : Char) : List Char :=
  if c = '&' then "&amp;".toList
  else if c = '<' then "&lt;".toList
  else if c = '>' then "&gt;".toList
  else if c = '\x22' then "&quot;".toList
  else if c = '\x27' then "&#x27;".toList
  else [c]

/-- `html.escape(text)`. -/
def escape (text : List Char) : List Char := text.flatMap escapeChar

/-- The character a reference stands for, of those that `html.escape` writes. -/
def reference (name : List Char) : Option Char :=
  if name = "amp".toList then some '&'
  else if name = "lt".toList then some '<'
  else if name = "gt".toList then some '>'
  else if name = "quot".toList then some '\x22'
  else if name = "#x27".toList then some '\x27'
  else none

/-- A character is written as itself or as a reference to it. -/
theorem escapeChar_cases (c : Char) :
    (∃ name, escapeChar c = '&' :: (name ++ [';']) ∧ reference name = some c ∧ ';' ∉ name) ∨
      escapeChar c = [c] ∧ c ≠ '&' ∧ c ≠ '<' ∧ c ≠ '>' ∧ c ≠ '\x27' := by
  unfold escapeChar
  split
  · rename_i h; subst h; exact .inl ⟨"amp".toList, by decide, by decide, by decide⟩
  split
  · rename_i h; subst h; exact .inl ⟨"lt".toList, by decide, by decide, by decide⟩
  split
  · rename_i h; subst h; exact .inl ⟨"gt".toList, by decide, by decide, by decide⟩
  split
  · rename_i h; subst h; exact .inl ⟨"quot".toList, by decide, by decide, by decide⟩
  split
  · rename_i h; subst h; exact .inl ⟨"#x27".toList, by decide, by decide, by decide⟩
  · rename_i hamp hlt hgt _ hapos
    exact .inr ⟨rfl, hamp, hlt, hgt, hapos⟩

/-- A character of a tag's or an attribute's name. -/
def nameChar (c : Char) : Bool := c.isAlphanum || c == '-'

def IsName (name : List Char) : Prop := name ≠ [] ∧ ∀ c ∈ name, nameChar c = true

theorem isName_iff {name : List Char} :
    (!name.isEmpty && name.all nameChar) = true ↔ IsName name := by
  rw [Bool.and_eq_true, List.all_eq_true, IsName]
  cases name <;> simp

instance (name : List Char) : Decidable (IsName name) := decidable_of_iff _ isName_iff

/-- The characters that delimit names are no part of them. -/
theorem ne_of_nameChar {c : Char} (h : nameChar c = true) :
    c ≠ '/' ∧ c ≠ '!' ∧ c ≠ '>' ∧ c ≠ ' ' ∧ c ≠ '=' := by
  refine ⟨?_, ?_, ?_, ?_, ?_⟩
  all_goals
    rintro rfl
    exact absurd h (by decide)

/-! ## Tokens -/

abbrev Attributes := List (List Char × List Char)

inductive Token where
  | declaration (text : List Char)
  | start (tag : List Char) (attributes : Attributes) (closing : Bool)
  | stop (tag : List Char)
  | char (c : Char)
  deriving DecidableEq

def writeAttribute (a : List Char × List Char) : List Char :=
  ' ' :: (a.1 ++ '=' :: '\x27' :: (escape a.2 ++ ['\x27']))

/-- The end of a start tag. -/
def writeEnd (closing : Bool) : List Char := if closing then [' ', '/', '>'] else ['>']

namespace Token

def write : Token → List Char
  | declaration text => '<' :: '!' :: (text ++ ['>'])
  | start tag attributes closing =>
    '<' :: (tag ++ (attributes.flatMap writeAttribute ++ writeEnd closing))
  | stop tag => '<' :: '/' :: (tag ++ ['>'])
  | char c => escapeChar c

/-- The names are names. -/
def Valid : Token → Prop
  | declaration text => '>' ∉ text
  | start tag attributes _ => IsName tag ∧ ∀ a ∈ attributes, IsName a.1
  | stop tag => IsName tag
  | char _ => True

end Token

/-- Where the tokenizer stands, with what it has read of the token. -/
inductive State where
  | data
  | dataReference (name : List Char)
  | tagOpen
  | declaration (text : List Char)
  | endTagName (tag : List Char)
  | tagName (tag : List Char)
  | beforeName (tag : List Char) (attributes : Attributes)
  | attributeName (tag : List Char) (attributes : Attributes) (name : List Char)
  | beforeValue (tag : List Char) (attributes : Attributes) (name : List Char)
  | value (tag : List Char) (attributes : Attributes) (name text : List Char)
  | valueReference (tag : List Char) (attributes : Attributes) (name text reference : List Char)
  | afterValue (tag : List Char) (attributes : Attributes)
  | selfClosing (tag : List Char) (attributes : Attributes)
  deriving DecidableEq

def State.step : State → Char → Option (State × List Token)
  | data, c =>
    if c = '<' then some (tagOpen, [])
    else if c = '&' then some (dataReference [], [])
    else some (data, [.char c])
  | dataReference name, c =>
    if c = ';' then (reference name).map fun d => (data, [.char d])
    else some (dataReference (name ++ [c]), [])
  | tagOpen, c =>
    if c = '/' then some (endTagName [], [])
    else if c = '!' then some (declaration [], [])
    else if nameChar c then some (tagName [c], [])
    else none
  | declaration text, c =>
    if c = '>' then some (data, [.declaration text]) else some (declaration (text ++ [c]), [])
  | endTagName tag, c =>
    if c = '>' then some (data, [.stop tag])
    else if nameChar c then some (endTagName (tag ++ [c]), [])
    else none
  | tagName tag, c =>
    if c = '>' then some (data, [.start tag [] false])
    else if c = ' ' then some (beforeName tag [], [])
    else if nameChar c then some (tagName (tag ++ [c]), [])
    else none
  | beforeName tag attributes, c =>
    if c = '/' then some (selfClosing tag attributes, [])
    else if nameChar c then some (attributeName tag attributes [c], [])
    else none
  | attributeName tag attributes name, c =>
    if c = '=' then some (beforeValue tag attributes name, [])
    else if nameChar c then some (attributeName tag attributes (name ++ [c]), [])
    else none
  | beforeValue tag attributes name, c =>
    if c = '\x27' then some (value tag attributes name [], []) else none
  | value tag attributes name text, c =>
    if c = '\x27' then some (afterValue tag (attributes ++ [(name, text)]), [])
    else if c = '&' then some (valueReference tag attributes name text [], [])
    else some (value tag attributes name (text ++ [c]), [])
  | valueReference tag attributes name text ref, c =>
    if c = ';' then (reference ref).map fun d => (value tag attributes name (text ++ [d]), [])
    else some (valueReference tag attributes name text (ref ++ [c]), [])
  | afterValue tag attributes, c =>
    if c = '>' then some (data, [.start tag attributes false])
    else if c = ' ' then some (beforeName tag attributes, [])
    else none
  | selfClosing tag attributes, c =>
    if c = '>' then some (data, [.start tag attributes true]) else none

/-- The state after a text, and its tokens. -/
def State.run : State → List Char → Option (State × List Token)
  | s, [] => some (s, [])
  | s, c :: cs =>
    (s.step c).bind fun r => (r.1.run cs).map fun q => (q.1, r.2 ++ q.2)

/-- The tokens of a whole text. -/
def lex (text : List Char) : Option (List Token) :=
  (State.data.run text).bind fun r => if r.1 = .data then some r.2 else none

/-- Over the text, the tokenizer goes from one state to another and gives the tokens. -/
def Lexes (s : State) (text : List Char) (s' : State) (ts : List Token) : Prop :=
  ∀ rest, s.run (text ++ rest) = (s'.run rest).map fun q => (q.1, ts ++ q.2)

namespace Lexes

variable {s s' s'' : State} {c : Char} {text text' : List Char} {ts ts' : List Token}

theorem nil (s : State) : Lexes s [] s [] := by
  intro rest
  simp

theorem trans (h : Lexes s text s' ts) (h' : Lexes s' text' s'' ts') :
    Lexes s (text ++ text') s'' (ts ++ ts') := by
  intro rest
  rw [List.append_assoc, h, h', Option.map_map]
  simp [Function.comp_def]

theorem cons (h : s.step c = some (s', ts)) (h' : Lexes s' text s'' ts') :
    Lexes s (c :: text) s'' (ts ++ ts') := by
  intro rest
  rw [List.cons_append, State.run, h, Option.bind_some, h', Option.map_map]
  simp [Function.comp_def]

/-- A character that gives no token. -/
theorem quiet (h : s.step c = some (s', [])) (h' : Lexes s' text s'' ts) :
    Lexes s (c :: text) s'' ts := cons h h'

theorem single (h : s.step c = some (s', ts)) : Lexes s [c] s' ts := by
  have hcons := cons h (nil s')
  rwa [List.append_nil] at hcons

theorem lex (h : Lexes .data text .data ts) : lex text = some ts := by
  have hrun := h []
  rw [List.append_nil] at hrun
  simp [Markup.lex, hrun, State.run]

end Lexes

/-! ## Reading tokens back -/

/-- Names are collected, up to what ends them. -/
theorem lexes_name {f : List Char → State} {text : List Char}
    (hstep : ∀ name c, nameChar c = true → (f name).step c = some (f (name ++ [c]), []))
    (h : ∀ c ∈ text, nameChar c = true) (name : List Char) :
    Lexes (f name) text (f (name ++ text)) [] := by
  induction text generalizing name with
  | nil =>
    rw [List.append_nil]
    exact .nil _
  | cons c text ih =>
    have hrest := ih (fun d hd => h d (List.mem_cons_of_mem _ hd)) (name ++ [c])
    rw [List.append_assoc, List.singleton_append] at hrest
    exact .cons (hstep name c (h c List.mem_cons_self)) hrest

/-- References are collected up to their semicolon. -/
theorem lexes_reference {f : List Char → State} {text : List Char}
    (hstep : ∀ name c, c ≠ ';' → (f name).step c = some (f (name ++ [c]), []))
    (h : ';' ∉ text) (name : List Char) : Lexes (f name) text (f (name ++ text)) [] := by
  induction text generalizing name with
  | nil =>
    rw [List.append_nil]
    exact .nil _
  | cons c text ih =>
    rw [List.mem_cons, not_or] at h
    have hrest := ih h.2 (name ++ [c])
    rw [List.append_assoc, List.singleton_append] at hrest
    exact .cons (hstep name c (Ne.symm h.1)) hrest

/-- An escaped character of the text is that character. -/
theorem lexes_char (c : Char) : Lexes .data (escapeChar c) .data [.char c] := by
  obtain ⟨name, heq, href, hsemi⟩ | ⟨heq, hamp, hlt, _⟩ := escapeChar_cases c
  · rw [heq]
    have hname : Lexes (.dataReference []) name (.dataReference name) [] :=
      lexes_reference (f := .dataReference) (fun _ _ h => by simp [State.step, h]) hsemi []
    have hend : Lexes (.dataReference name) [';'] .data [.char c] :=
      .single (by simp [State.step, href])
    exact .quiet rfl (hname.trans hend)
  · rw [heq]
    exact .single (by simp [State.step, hamp, hlt])

/-- An escaped attribute value is that value. -/
theorem lexes_value (tag : List Char) (attributes : Attributes) (name text : List Char) :
    ∀ before, Lexes (.value tag attributes name before) (escape text)
      (.value tag attributes name (before ++ text)) [] := by
  induction text with
  | nil =>
    intro before
    rw [List.append_nil]
    exact .nil _
  | cons c text ih =>
    intro before
    have hrest := ih (before ++ [c])
    rw [List.append_assoc, List.singleton_append] at hrest
    have hchar : Lexes (.value tag attributes name before) (escapeChar c)
        (.value tag attributes name (before ++ [c])) [] := by
      obtain ⟨ref, heq, href, hsemi⟩ | ⟨heq, hamp, _, _, hapos⟩ := escapeChar_cases c
      · rw [heq]
        have hname := lexes_reference (f := .valueReference tag attributes name before)
          (fun _ _ h => by simp [State.step, h]) hsemi []
        have hend : Lexes (.valueReference tag attributes name before ref) [';']
            (.value tag attributes name (before ++ [c])) [] := .single (by simp [State.step, href])
        exact .quiet rfl (hname.trans hend)
      · rw [heq]
        exact .single (by simp [State.step, hamp, hapos])
    exact hchar.trans hrest

/-- An attribute, from the character after its space. -/
theorem lexes_attribute {a : List Char × List Char} (h : IsName a.1) (tag : List Char)
    (attributes : Attributes) :
    Lexes (.beforeName tag attributes) (a.1 ++ '=' :: '\x27' :: (escape a.2 ++ ['\x27']))
      (.afterValue tag (attributes ++ [a])) [] := by
  obtain ⟨name, text⟩ := a
  obtain ⟨hne, hall⟩ := h
  obtain ⟨c, name, rfl⟩ := List.exists_cons_of_ne_nil hne
  have hc := hall c List.mem_cons_self
  have hname := lexes_name (f := .attributeName tag attributes)
    (fun _ _ h => by simp [State.step, ne_of_nameChar h, h])
    (fun d hd => hall d (List.mem_cons_of_mem _ hd)) [c]
  have hvalue := (lexes_value tag attributes (c :: name) text []).trans
    (.single (rfl : State.step (.value tag attributes (c :: name) ([] ++ text)) '\x27' =
      some (.afterValue tag (attributes ++ [(c :: name, text)]), [])))
  have hopen := Lexes.quiet (s := .beforeValue tag attributes (c :: name)) (c := '\x27') rfl hvalue
  have heq := Lexes.quiet (s := .attributeName tag attributes (c :: name)) (c := '=') rfl hopen
  exact .quiet (by simp [State.step, ne_of_nameChar hc, hc]) (hname.trans heq)

theorem lexes_attributes {attributes : Attributes} (h : ∀ a ∈ attributes, IsName a.1)
    (tag : List Char) (before : Attributes) :
    Lexes (.afterValue tag before) (attributes.flatMap writeAttribute)
      (.afterValue tag (before ++ attributes)) [] := by
  induction attributes generalizing before with
  | nil =>
    rw [List.append_nil]
    exact .nil _
  | cons a attributes ih =>
    have hrest := ih (fun b hb => h b (List.mem_cons_of_mem _ hb)) (before ++ [a])
    rw [List.append_assoc, List.singleton_append] at hrest
    have ha := Lexes.quiet (s := .afterValue tag before) (c := ' ') rfl
      (lexes_attribute (h a List.mem_cons_self) tag before)
    exact ha.trans hrest

theorem lexes_end (tag : List Char) (attributes : Attributes) (closing : Bool) :
    Lexes (.afterValue tag attributes) (writeEnd closing) .data
      [.start tag attributes closing] := by
  cases closing with
  | false => exact .single rfl
  | true => exact .quiet rfl (.quiet rfl (.single rfl))

/-- What follows a tag's name. -/
theorem lexes_afterName {attributes : Attributes} (h : ∀ a ∈ attributes, IsName a.1)
    (tag : List Char) (closing : Bool) :
    Lexes (.tagName tag) (attributes.flatMap writeAttribute ++ writeEnd closing) .data
      [.start tag attributes closing] := by
  cases attributes with
  | nil =>
    cases closing with
    | false => exact .single rfl
    | true => exact .quiet rfl (.quiet rfl (.single rfl))
  | cons a attributes =>
    have ha := Lexes.quiet (s := .tagName tag) (c := ' ') rfl
      (lexes_attribute (h a List.mem_cons_self) tag [])
    have hrest := lexes_attributes (fun b hb => h b (List.mem_cons_of_mem _ hb)) tag [a]
    exact (ha.trans hrest).trans (lexes_end tag (a :: attributes) closing)

theorem lexes_declaration {text : List Char} (h : '>' ∉ text) :
    ∀ before, Lexes (.declaration before) (text ++ ['>']) .data
      [.declaration (before ++ text)] := by
  induction text with
  | nil =>
    intro before
    rw [List.append_nil]
    exact .single rfl
  | cons c text ih =>
    intro before
    rw [List.mem_cons, not_or] at h
    have hrest := ih h.2 (before ++ [c])
    rw [List.append_assoc, List.singleton_append] at hrest
    exact .quiet (by simp [State.step, Ne.symm h.1]) hrest

/-- Every written token is read back, whatever stands around it. -/
theorem lexes_token {t : Token} (h : t.Valid) : Lexes .data t.write .data [t] := by
  cases t with
  | declaration text =>
    exact .quiet rfl (.quiet rfl (lexes_declaration h []))
  | start tag attributes closing =>
    obtain ⟨⟨hne, hall⟩, hattributes⟩ := h
    obtain ⟨c, tag, rfl⟩ := List.exists_cons_of_ne_nil hne
    have hc := hall c List.mem_cons_self
    have hname := lexes_name (f := .tagName)
      (fun _ _ h => by simp [State.step, ne_of_nameChar h, h])
      (fun d hd => hall d (List.mem_cons_of_mem _ hd)) [c]
    have hrest := hname.trans (lexes_afterName hattributes (c :: tag) closing)
    exact .quiet rfl
      (.quiet (by simp [State.step, ne_of_nameChar hc, hc]) hrest)
  | stop tag =>
    have hname := lexes_name (f := .endTagName)
      (fun _ _ h => by simp [State.step, ne_of_nameChar h, h]) h.2 []
    have hend : Lexes (.endTagName tag) ['>'] .data [.stop tag] := .single rfl
    exact .quiet rfl (.quiet rfl (hname.trans hend))
  | char c => exact lexes_char c

theorem lexes_tokens {ts : List Token} (h : ∀ t ∈ ts, t.Valid) :
    Lexes .data (ts.flatMap Token.write) .data ts := by
  induction ts with
  | nil => exact .nil _
  | cons t ts ih =>
    exact (lexes_token (h t List.mem_cons_self)).trans
      (ih fun u hu => h u (List.mem_cons_of_mem _ hu))

/-! ## Trees -/

inductive Node where
  | char (c : Char)
  | declaration (text : List Char)
  | void (tag : List Char) (attributes : Attributes) (closing : Bool)
  | element (tag : List Char) (attributes : Attributes) (children : List Node)

/-- The characters of a text. -/
def text (cs : List Char) : List Node := cs.map .char

namespace Node

mutual

def tokens : Node → List Token
  | char c => [.char c]
  | declaration text => [.declaration text]
  | void tag attributes closing => [.start tag attributes closing]
  | element tag attributes children =>
    .start tag attributes false :: (tokensAll children ++ [.stop tag])

def tokensAll : List Node → List Token
  | [] => []
  | n :: ns => n.tokens ++ tokensAll ns

end

mutual

/-- Names are names, and the elements without content are those of `voids`. -/
def Valid (voids : List (List Char)) : Node → Prop
  | char _ => True
  | declaration text => '>' ∉ text
  | void tag attributes _ => tag ∈ voids ∧ IsName tag ∧ ∀ a ∈ attributes, IsName a.1
  | element tag attributes children =>
    tag ∉ voids ∧ IsName tag ∧ (∀ a ∈ attributes, IsName a.1) ∧ ValidAll voids children

def ValidAll (voids : List (List Char)) : List Node → Prop
  | [] => True
  | n :: ns => n.Valid voids ∧ ValidAll voids ns

end

end Node

def write (ns : List Node) : List Char := (Node.tokensAll ns).flatMap Token.write

/-- An element that is open, with what stood before it. -/
structure Frame where
  tag : List Char
  attributes : Attributes
  before : List Node

/-- The trees of the tokens: the stack of open elements, and the content of the innermost. -/
def build (voids : List (List Char)) : List Frame → List Node → List Token → Option (List Node)
  | [], content, [] => some content
  | _ :: _, _, [] => none
  | stack, content, .char c :: ts => build voids stack (content ++ [.char c]) ts
  | stack, content, .declaration text :: ts =>
    build voids stack (content ++ [.declaration text]) ts
  | stack, content, .start tag attributes closing :: ts =>
    if tag ∈ voids then build voids stack (content ++ [.void tag attributes closing]) ts
    else build voids (⟨tag, attributes, content⟩ :: stack) [] ts
  | [], _, .stop _ :: _ => none
  | frame :: stack, content, .stop tag :: ts =>
    if tag = frame.tag then
      build voids stack (frame.before ++ [.element frame.tag frame.attributes content]) ts
    else none

/-- The trees of a text. -/
def read (voids : List (List Char)) (text : List Char) : Option (List Node) :=
  (lex text).bind (build voids [] [])

/-! ## Reading trees back -/

section

variable {voids : List (List Char)}

mutual

theorem Node.tokens_valid {n : Node} (h : n.Valid voids) : ∀ t ∈ n.tokens, t.Valid := by
  cases n with
  | char c => simp [Node.tokens, Token.Valid]
  | declaration text => simpa [Node.tokens, Token.Valid, Node.Valid] using h
  | void tag attributes closing =>
    rw [Node.Valid] at h
    simpa [Node.tokens, Token.Valid] using h.2
  | element tag attributes children =>
    rw [Node.Valid] at h
    obtain ⟨_, htag, hattributes, hchildren⟩ := h
    have hall := Node.tokensAll_valid hchildren
    rw [Node.tokens, List.forall_mem_cons, List.forall_mem_append]
    exact ⟨⟨htag, hattributes⟩, hall, by simpa [Token.Valid] using htag⟩

theorem Node.tokensAll_valid {ns : List Node} (h : Node.ValidAll voids ns) :
    ∀ t ∈ Node.tokensAll ns, t.Valid := by
  cases ns with
  | nil => simp [Node.tokensAll]
  | cons n ns =>
    rw [Node.ValidAll] at h
    rw [Node.tokensAll, List.forall_mem_append]
    exact ⟨Node.tokens_valid h.1, Node.tokensAll_valid h.2⟩

end

mutual

/-- The tokens of a tree add the tree to the content. -/
theorem build_tokens {n : Node} (h : n.Valid voids) (stack : List Frame) (content : List Node)
    (ts : List Token) :
    build voids stack content (n.tokens ++ ts) = build voids stack (content ++ [n]) ts := by
  cases n with
  | char c => rw [Node.tokens, List.singleton_append, build]
  | declaration text => rw [Node.tokens, List.singleton_append, build]
  | void tag attributes closing =>
    rw [Node.Valid] at h
    rw [Node.tokens, List.singleton_append, build, if_pos h.1]
  | element tag attributes children =>
    rw [Node.Valid] at h
    obtain ⟨hvoid, _, _, hchildren⟩ := h
    rw [Node.tokens, List.cons_append, build, if_neg hvoid, List.append_assoc,
      build_tokensAll hchildren, List.singleton_append, List.nil_append, build, if_pos rfl]

theorem build_tokensAll {ns : List Node} (h : Node.ValidAll voids ns) (stack : List Frame)
    (content : List Node) (ts : List Token) :
    build voids stack content (Node.tokensAll ns ++ ts) =
      build voids stack (content ++ ns) ts := by
  cases ns with
  | nil => rw [Node.tokensAll, List.nil_append, List.append_nil]
  | cons n ns =>
    rw [Node.ValidAll] at h
    rw [Node.tokensAll, List.append_assoc, build_tokens h.1, build_tokensAll h.2,
      List.append_assoc, List.singleton_append]

end

/-- The trees that were written are read back. -/
theorem read_write {ns : List Node} (h : Node.ValidAll voids ns) :
    read voids (write ns) = some ns := by
  have hlex : lex (write ns) = some (Node.tokensAll ns) :=
    (lexes_tokens (Node.tokensAll_valid h)).lex
  have hbuild := build_tokensAll h [] [] []
  rw [List.append_nil] at hbuild
  rw [read, hlex, Option.bind_some, hbuild, build, List.nil_append]

end

/-! ## Putting trees together -/

namespace Node

variable {voids : List (List Char)}

theorem tokensAll_append (ns ms : List Node) :
    tokensAll (ns ++ ms) = tokensAll ns ++ tokensAll ms := by
  induction ns with
  | nil => rfl
  | cons n ns ih => rw [List.cons_append, tokensAll, tokensAll, ih, List.append_assoc]

theorem validAll_append {ns ms : List Node} :
    ValidAll voids (ns ++ ms) ↔ ValidAll voids ns ∧ ValidAll voids ms := by
  induction ns with
  | nil => simp [ValidAll]
  | cons n ns ih => rw [List.cons_append, ValidAll, ValidAll, ih, and_assoc]

theorem validAll_text (cs : List Char) : ValidAll voids (text cs) := by
  induction cs with
  | nil => simp [text, ValidAll]
  | cons c cs ih =>
    rw [text, List.map_cons, ValidAll, Valid]
    exact ⟨trivial, ih⟩

theorem validAll_flatMap {α : Type} {f : α → List Node} {xs : List α}
    (h : ∀ x ∈ xs, ValidAll voids (f x)) : ValidAll voids (xs.flatMap f) := by
  induction xs with
  | nil => simp [ValidAll]
  | cons x xs ih =>
    rw [List.flatMap_cons, validAll_append]
    exact ⟨h x List.mem_cons_self, ih fun y hy => h y (List.mem_cons_of_mem _ hy)⟩

end Node

@[simp] theorem write_nil : write [] = [] := rfl

@[simp] theorem write_append (ns ms : List Node) : write (ns ++ ms) = write ns ++ write ms := by
  rw [write, Node.tokensAll_append, List.flatMap_append]
  rfl

theorem write_cons (n : Node) (ns : List Node) : write (n :: ns) = write [n] ++ write ns :=
  write_append [n] ns

@[simp] theorem write_text (cs : List Char) : write (text cs) = escape cs := by
  induction cs with
  | nil => rfl
  | cons c cs ih =>
    rw [text, List.map_cons, write_cons, escape, List.flatMap_cons]
    rw [text, escape] at ih
    rw [ih]
    simp [write, Node.tokensAll, Node.tokens, Token.write]

@[simp] theorem write_element (tag : List Char) (attributes : Attributes)
    (children ns : List Node) :
    write (.element tag attributes children :: ns) =
      '<' :: (tag ++ (attributes.flatMap writeAttribute ++ '>' :: (write children ++
        '<' :: '/' :: (tag ++ '>' :: write ns)))) := by
  simp [write, Node.tokensAll, Node.tokens, Token.write, writeEnd]

@[simp] theorem write_void (tag : List Char) (attributes : Attributes) (closing : Bool)
    (ns : List Node) :
    write (.void tag attributes closing :: ns) =
      '<' :: (tag ++ (attributes.flatMap writeAttribute ++ (writeEnd closing ++ write ns))) := by
  simp [write, Node.tokensAll, Node.tokens, Token.write]

@[simp] theorem write_declaration (declared : List Char) (ns : List Node) :
    write (.declaration declared :: ns) = '<' :: '!' :: (declared ++ '>' :: write ns) := by
  simp [write, Node.tokensAll, Node.tokens, Token.write]

theorem write_flatMap {α : Type} (f : α → List Node) (xs : List α) :
    write (xs.flatMap f) = xs.flatMap fun x => write (f x) := by
  induction xs with
  | nil => rfl
  | cons x xs ih => rw [List.flatMap_cons, List.flatMap_cons, write_append, ih]

/-! ## Elements -/

/-- The elements of trees with the names of their attributes: what is left without the texts. -/
inductive Skeleton where
  | mk (tag : List Char) (attributes : List (List Char)) (children : List Skeleton)

mutual

def Node.skeleton : Node → List Skeleton
  | .char _ => []
  | .declaration _ => []
  | .void tag attributes _ => [.mk tag (attributes.map Prod.fst) []]
  | .element tag attributes children => [.mk tag (attributes.map Prod.fst) (skeletons children)]

def skeletons : List Node → List Skeleton
  | [] => []
  | n :: ns => n.skeleton ++ skeletons ns

end

@[simp] theorem skeletons_nil : skeletons [] = [] := rfl

@[simp] theorem skeletons_void (tag : List Char) (attributes : Attributes) (closing : Bool)
    (ns : List Node) :
    skeletons (.void tag attributes closing :: ns) =
      .mk tag (attributes.map Prod.fst) [] :: skeletons ns := rfl

@[simp] theorem skeletons_declaration (declared : List Char) (ns : List Node) :
    skeletons (.declaration declared :: ns) = skeletons ns := rfl

@[simp] theorem skeletons_append (ns ms : List Node) :
    skeletons (ns ++ ms) = skeletons ns ++ skeletons ms := by
  induction ns with
  | nil => rfl
  | cons n ns ih => rw [List.cons_append, skeletons, skeletons, ih, List.append_assoc]

@[simp] theorem skeletons_text (cs : List Char) : skeletons (text cs) = [] := by
  induction cs with
  | nil => rfl
  | cons c cs ih =>
    rw [text] at ih
    rw [text, List.map_cons, skeletons, ih]
    rfl

theorem skeletons_flatMap {α : Type} (f : α → List Node) (xs : List α) :
    skeletons (xs.flatMap f) = xs.flatMap fun x => skeletons (f x) := by
  induction xs with
  | nil => rfl
  | cons x xs ih => rw [List.flatMap_cons, List.flatMap_cons, skeletons_append, ih]

end Markup
