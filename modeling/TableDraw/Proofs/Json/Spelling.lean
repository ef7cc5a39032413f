import TableDraw.Json.Document
import TableDraw.Json.Lexeme

set_option autoImplicit false

/-!
The texts of a document: any blanks may stand between two pieces of it. Both layouts in which
documents are written are among them.
-/

namespace TableDraw.Json

/-- A string of nothing but blanks. -/
def Blank (b : List Char) : Prop := ∀ c ∈ b, isBlank c = true

theorem blank_nil : Blank [] := by
  intro c member
  cases member

theorem Blank.append {b b' : List Char} (blank : Blank b) (blank' : Blank b') : Blank (b ++ b') := by
  intro c member
  rcases List.mem_append.mp member with member | member
  · exact blank c member
  · exact blank' c member

theorem dropBlank_append {b : List Char} (blank : Blank b) (s : List Char) :
    dropBlank (b ++ s) = dropBlank s :=
  List.dropWhile_append_of_pos blank

theorem dropBlank_blank {b : List Char} (blank : Blank b) : dropBlank b = [] := by
  rw [← List.append_nil b, dropBlank_append blank]
  rfl

theorem dropBlank_cons {c : Char} (solid : isBlank c = false) (s : List Char) :
    dropBlank (c :: s) = c :: s :=
  List.dropWhile_cons_of_neg (by simp [solid])

theorem dropBlank_append_cons {b : List Char} (blank : Blank b) {c : Char}
    (solid : isBlank c = false) (s : List Char) : dropBlank (b ++ c :: s) = c :: s := by
  rw [dropBlank_append blank, dropBlank_cons solid]

namespace Document

/-- What follows the opening of a container, up to its end: items with a text each and commas
between them. `first` tells that no comma stands before the first of them. -/
inductive Body {α : Type} (close : Char) (text : α → List Char → Prop) :
    (first : Bool) → List α → List Char → Prop
  | done {first : Bool} {b : List Char} (blank : Blank b) : Body close text first [] (b ++ [close])
  | first {a : α} {rest : List α} {b t s : List Char} (blank : Blank b) (item : text a t)
      (more : Body close text false rest s) : Body close text true (a :: rest) (b ++ t ++ s)
  | next {a : α} {rest : List α} {b b' t s : List Char} (blank : Blank b) (blank' : Blank b')
      (item : text a t) (more : Body close text false rest s) :
      Body close text false (a :: rest) (b ++ ',' :: b' ++ t ++ s)

/-- What is a text of items is one of other items, if that holds for each of them. -/
theorem Body.map {α β : Type} {close : Char} {text : α → List Char → Prop}
    {text' : β → List Char → Prop} {f : α → β} {first : Bool} {items : List α} {s : List Char}
    (body : Body close text first items s) (each : ∀ a ∈ items, ∀ t, text a t → text' (f a) t) :
    Body close text' first (items.map f) s := by
  induction body with
  | done blank => exact .done blank
  | first blank item more ih =>
      obtain ⟨own, others⟩ := List.forall_mem_cons.mp each
      exact .first blank (own _ item) (ih others)
  | next blank blank' item more ih =>
      obtain ⟨own, others⟩ := List.forall_mem_cons.mp each
      exact .next blank blank' (own _ item) (ih others)

/-- A member of an object: its key, a colon, and a text of its value. -/
inductive Member (text : Document → List Char → Prop) : String × Document → List Char → Prop
  | mk {key : String} {value : Document} {b b' t : List Char} (blank : Blank b) (blank' : Blank b')
      (spelled : text value t) : Member text (key, value) (keyText key ++ b ++ ':' :: b' ++ t)

/-- A text of a document. -/
inductive Spelled : Document → List Char → Prop
  | integer (n : Int) : Spelled (.integer n) (integerText n)
  | list {items : List Document} {s : List Char} (body : Body ']' Spelled true items s) :
      Spelled (.list items) ('[' :: s)
  | object {members : List (String × Document)} {s : List Char}
      (body : Body '\x7d' (Member Spelled) true members s) : Spelled (.object members) ('\x7b' :: s)

theorem spelled_member (key : String) {value : Document} {b t : List Char} (blank : Blank b)
    (spelled : Spelled value t) : Member Spelled (key, value) (keyText key ++ ':' :: b ++ t) := by
  have member : Member Spelled (key, value) (keyText key ++ [] ++ ':' :: b ++ t) :=
    .mk blank_nil blank spelled
  rwa [List.append_nil] at member

section Compact

mutual

theorem spelled_compact : ∀ d : Document, Spelled d d.compact
  | .integer n => .integer n
  | .list items => .list (body_compactItems items)
  | .object members => .object (body_compactMembers members)

theorem body_compactItems :
    ∀ items : List Document, Body ']' Spelled true items (compactItems items ++ [']'])
  | [] => .done blank_nil
  | item :: rest => by
      rw [compactItems, List.append_assoc]
      exact .first blank_nil (spelled_compact item) (body_compactMoreItems rest)

theorem body_compactMoreItems :
    ∀ items : List Document, Body ']' Spelled false items (compactMoreItems items ++ [']'])
  | [] => .done blank_nil
  | item :: rest => by
      have body := Body.next blank_nil blank_nil (spelled_compact item) (body_compactMoreItems rest)
      simpa [compactMoreItems] using body

theorem body_compactMembers : ∀ members : List (String × Document),
    Body '\x7d' (Member Spelled) true members (compactMembers members ++ ['\x7d'])
  | [] => .done blank_nil
  | (key, value) :: rest => by
      have body := Body.first blank_nil (spelled_member key blank_nil (spelled_compact value))
        (body_compactMoreMembers rest)
      simpa [compactMembers] using body

theorem body_compactMoreMembers : ∀ members : List (String × Document),
    Body '\x7d' (Member Spelled) false members (compactMoreMembers members ++ ['\x7d'])
  | [] => .done blank_nil
  | (key, value) :: rest => by
      have body := Body.next blank_nil blank_nil (spelled_member key blank_nil (spelled_compact value))
        (body_compactMoreMembers rest)
      simpa [compactMoreMembers] using body

end

end Compact

section Indented

theorem blank_newline (depth : Nat) : Blank (newline depth) := by
  intro c member
  rcases List.mem_cons.mp member with rfl | member
  · rfl
  · rw [List.eq_of_mem_replicate member]
    rfl

theorem blank_space : Blank [' '] := by
  intro c member
  rw [List.mem_singleton.mp member]
  rfl

mutual

theorem spelled_indented : ∀ (depth : Nat) (d : Document), Spelled d (d.indented depth)
  | _, .integer n => .integer n
  | _, .list [] => .list (.done blank_nil)
  | depth, .list (item :: rest) => by
      have body := Body.first (blank_newline (depth + 1)) (spelled_indented (depth + 1) item)
        (body_indentedItems depth rest)
      simpa [indented] using Spelled.list body
  | _, .object [] => .object (.done blank_nil)
  | depth, .object ((key, value) :: rest) => by
      have body := Body.first (blank_newline (depth + 1))
        (spelled_member key blank_space (spelled_indented (depth + 1) value))
        (body_indentedMembers depth rest)
      simpa [indented] using Spelled.object body

theorem body_indentedItems : ∀ (depth : Nat) (items : List Document), Body ']' Spelled false items
    (indentedItems (depth + 1) items ++ (newline depth ++ [']']))
  | depth, [] => .done (blank_newline depth)
  | depth, item :: rest => by
      have body := Body.next blank_nil (blank_newline (depth + 1))
        (spelled_indented (depth + 1) item) (body_indentedItems depth rest)
      simpa [indentedItems] using body

theorem body_indentedMembers : ∀ (depth : Nat) (members : List (String × Document)),
    Body '\x7d' (Member Spelled) false members
      (indentedMembers (depth + 1) members ++ (newline depth ++ ['\x7d']))
  | depth, [] => .done (blank_newline depth)
  | depth, (key, value) :: rest => by
      have body := Body.next blank_nil (blank_newline (depth + 1))
        (spelled_member key blank_space (spelled_indented (depth + 1) value))
        (body_indentedMembers depth rest)
      simpa [indentedMembers] using body

end

end Indented

end Document

end TableDraw.Json
