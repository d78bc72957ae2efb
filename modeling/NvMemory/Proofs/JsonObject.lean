import NvMemory.Json.Document
import NvMemory.Proofs.JsonText

/-!
Objects whose members are natural numbers.

`objectTokens` lists the tokens of such an object. They are read as its members, in the order in which
they stand, and an object that is written on several lines is one of the layouts of its tokens.
-/

namespace NvMemory.Json

variable {tokens : List Token} {text : String}

/-- What follows the opening brace. -/
def memberTokens : List (String × Nat) → List Token
  | [] => [.closeBrace]
  | [(key, value)] => [.text (some key), .colon, .natural value, .closeBrace]
  | (key, value) :: rest => .text (some key) :: .colon :: .natural value :: .comma :: memberTokens rest

def objectTokens (members : List (String × Nat)) : List Token :=
  .openBrace :: memberTokens members

theorem apart_objectTokens (members : List (String × Nat)) :
    (objectTokens members).IsChain Token.Apart := by
  apply Token.isChain_cons rfl
  fun_induction memberTokens members with
  | case1 => exact .singleton _
  | case2 key value =>
      have value : [.natural value, .closeBrace].IsChain Token.Apart :=
        .cons_cons (fun _ => rfl) (.singleton _)
      exact Token.isChain_cons rfl (Token.isChain_cons rfl value)
  | case3 key value rest more ih =>
      have value : (.natural value :: .comma :: memberTokens rest).IsChain Token.Apart :=
        .cons_cons (fun _ => rfl) (Token.isChain_cons rfl ih)
      exact Token.isChain_cons rfl (Token.isChain_cons rfl value)

/-- What an object says of its members when it is read. -/
def memberDocuments (members : List (String × Nat)) : List (Option String × Document) :=
  members.map fun (key, value) => (some key, .natural value)

theorem foldlM_memberTokens (members : List (String × Nat)) (nonempty : members ≠ [])
    (read : List (Option String × Document)) :
    (memberTokens members).foldlM Progress.step (.nextKey read []) =
      some (.done (.object (read.reverse ++ memberDocuments members)) []) := by
  fun_induction memberTokens members generalizing read with
  | case1 => contradiction
  | case2 key value =>
      have all : read.reverse ++ memberDocuments [(key, value)] =
          ((some key, .natural value) :: read).reverse := by
        rw [List.reverse_cons]
        rfl
      rw [all]
      rfl
  | case3 key value rest more ih =>
      change (memberTokens rest).foldlM Progress.step
        (.nextKey ((some key, .natural value) :: read) []) = _
      rw [ih more, List.reverse_cons, List.append_assoc]
      rfl

theorem ofTokens?_objectTokens (members : List (String × Nat)) :
    Document.ofTokens? (objectTokens members) = some (.object (memberDocuments members)) := by
  cases members with
  | nil => rfl
  | cons member rest =>
      -- The first key is read like those that come after a comma.
      have first : (memberTokens (member :: rest)).foldlM Progress.step (.firstKey []) =
          (memberTokens (member :: rest)).foldlM Progress.step (.nextKey [] []) := by
        cases rest <;> rfl
      change ((memberTokens (member :: rest)).foldlM Progress.step (.firstKey [])).bind
        Progress.result? = _
      rw [first, foldlM_memberTokens _ (List.cons_ne_nil _ _)]
      rfl

theorem parse?_of_layout {members : List (String × Nat)} (layout : Layout (objectTokens members) text) :
    Document.parse? (bytesOf text) = some (.object (memberDocuments members)) := by
  simp only [Document.parse?, layout.ofBytes? (apart_objectTokens members)]
  exact ofTokens?_objectTokens members

def memberValues (members : List (String × Nat)) : List (String × Value) :=
  members.map fun (key, value) => (key, .natural value)

namespace Layout

theorem blanks {marks : List Char} (blank : ∀ mark ∈ marks, mark ∈ [' ', '\n', '\r', '\t'])
    (rest : Layout tokens text) : Layout tokens (String.ofList marks ++ text) := by
  induction marks with
  | nil => simpa using rest
  | cons mark marks ih =>
      rw [List.forall_mem_cons] at blank
      rw [String.ofList_cons, String.append_assoc]
      exact .blank blank.1 (ih blank.2)

theorem newline (level : Nat) (rest : Layout tokens text) :
    Layout tokens (Value.newline level ++ text) := by
  refine rest.blanks fun mark member => ?_
  rcases List.mem_cons.mp member with rfl | space
  · decide
  · rw [List.eq_of_mem_replicate space]
    decide

theorem member {key : String} {value : Nat} (plain : PlainText key)
    (rest : Layout tokens text) :
    Layout (.text (some key) :: .colon :: .natural value :: tokens)
      (Value.quote key ++ ": " ++ toString value ++ text) := by
  have colon : ": " = ":" ++ String.singleton ' ' := rfl
  rw [colon]
  simp only [String.append_assoc]
  exact .word (.text plain) (.word .colon (.blank (by decide) (.word (.natural value) rest)))

theorem prettyMembers (level : Nat) {members : List (String × Nat)} (nonempty : members ≠ [])
    (plain : ∀ member ∈ members, PlainText member.1) :
    Layout (memberTokens members)
      (Value.prettyMembers level (memberValues members) ++ (Value.newline 0 ++ "\x7d")) := by
  have closed : Layout [.closeBrace] (Value.newline 0 ++ "\x7d") := newline 0 (.word .closeBrace .done)
  fun_induction memberTokens members with
  | case1 => contradiction
  | case2 key value => exact closed.member (plain _ List.mem_cons_self)
  | case3 key value rest more ih =>
      rw [List.forall_mem_cons] at plain
      have others := (ih more plain.2).newline level
      have here : Layout _ (Value.quote key ++ ": " ++ toString value ++ ("," ++ _)) :=
        (Layout.word .comma others).member plain.1
      obtain ⟨next, later, rfl⟩ := List.exists_cons_of_ne_nil more
      simp only [memberValues, List.map_cons, Value.prettyMembers, String.append_assoc] at here ⊢
      exact here

theorem pretty {members : List (String × Nat)}
    (plain : ∀ member ∈ members, PlainText member.1) :
    Layout (objectTokens members) (Value.object (memberValues members)).pretty := by
  cases members with
  | nil => exact .word .openBrace (.word .closeBrace .done)
  | cons member rest =>
      have inside := prettyMembers 1 (List.cons_ne_nil member rest) plain
      have whole := Layout.word .openBrace (inside.newline 1)
      simp only [Value.pretty, memberValues, List.map_cons, Value.prettyAt, String.append_assoc]
      exact whole

end Layout

end NvMemory.Json
