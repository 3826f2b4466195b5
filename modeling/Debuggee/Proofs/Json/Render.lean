import Debuggee.Proofs.Json.Token
import Debuggee.Proofs.Layout.Reading

/-!
Data is read back from its text: the draft of a text is the data that was written, whole and
without a fault, and parsing gives that data with its keys sorted. Doubles are left out, since their
digits are rounded.
-/

namespace Debuggee.Json

open Bytes (ascii)

/-- Data without doubles whose integers have sixty-four bits, at every depth. -/
inductive Exact : Json → Prop where
  | null : Exact .null
  | boolean (value : Bool) : Exact (.boolean value)
  | integer {value : Int} (exact : IsExact value) : Exact (.integer value)
  | text (value : String) : Exact (.text value)
  | list {items : List Json} (each : ∀ item ∈ items, Exact item) : Exact (.list items)
  | object {members : List (String × Json)} (each : ∀ member ∈ members, Exact member.2) :
      Exact (.object members)

def renderMember (member : String × Json) : Bytes :=
  renderText member.1 ++ ascii ':' :: member.2.render

theorem renderItems_cons (item : Json) (items : List Json) :
    renderItems (item :: items) =
      item.render ++ items.flatMap fun other => ascii ',' :: other.render := by
  induction items generalizing item with
  | nil => simp [renderItems]
  | cons other items ih => simp [renderItems, ih other]

theorem renderMembers_cons (member : String × Json) (members : List (String × Json)) :
    renderMembers (member :: members) =
      renderMember member ++ members.flatMap fun other => ascii ',' :: renderMember other := by
  induction members generalizing member with
  | nil => simp [renderMembers, renderMember]
  | cons other members ih => simp [renderMembers, renderMember, ih other]

theorem ends_items (items : List Json) (rest : Bytes) :
    Ends ((items.flatMap fun item => ascii ',' :: item.render) ++ ascii ']' :: rest) := by
  cases items <;> simp [Ends]

theorem ends_members (members : List (String × Json)) (rest : Bytes) :
    Ends ((members.flatMap fun member => ascii ',' :: renderMember member) ++
      ascii '\x7d' :: rest) := by
  cases members <;> simp [Ends]

namespace Assembly

theorem run_of_token {assembly : Assembly} {octets rest : Bytes} {token : Token}
    (unsettled : assembly.isSettled = false) (found : nextToken octets = some (token, rest)) :
    assembly.run octets = (assembly.step token).run rest := by
  rw [run, unsettled]
  simp only [Bool.false_eq_true, if_false]
  split
  · rename_i missing
    rw [found] at missing
    contradiction
  · rename_i other otherRest same
    rw [found] at same
    obtain ⟨rfl, rfl⟩ := Prod.mk.inj (Option.some.inj same)
    rfl

theorem run_nil (assembly : Assembly) : assembly.run [] = assembly := by
  rw [run]
  split <;> rfl

/--
A text read where a value is due: its first token does not close a list, and whatever is open, the
value is delivered there once the text has been read.
-/
def Delivers (text : Bytes) (draft : Draft) : Prop :=
  ∀ rest, Ends rest → ∃ token left, nextToken (text ++ rest) = some (token, left) ∧
    token ≠ .closeList ∧
    ∀ around, (beginValue token around).run left = (deliver draft around).run rest

section Inside

variable {text rest : Bytes} {draft : Draft} {around : List Enclosing}

theorem run_value (delivers : Delivers text draft) (ends : Ends rest) :
    (reading .value around).run (text ++ rest) = (deliver draft around).run rest := by
  obtain ⟨token, left, found, -, delivered⟩ := delivers rest ends
  rw [run_of_token rfl found]
  exact delivered around

theorem run_listStart (delivers : Delivers text draft) (ends : Ends rest) :
    (reading .listStart around).run (text ++ rest) =
      (reading (.afterItem [draft]) around).run rest := by
  obtain ⟨token, left, found, goesOn, delivered⟩ := delivers rest ends
  have begun : (reading .listStart around).step token = beginValue token (.list [] :: around) := by
    cases token <;> first | rfl | contradiction
  rw [run_of_token rfl found, begun]
  exact delivered _

theorem run_nextItem {items : List Draft} (delivers : Delivers text draft) (ends : Ends rest) :
    (reading (.nextItem items) around).run (text ++ rest) =
      (reading (.afterItem (draft :: items)) around).run rest := by
  obtain ⟨token, left, found, goesOn, delivered⟩ := delivers rest ends
  have begun : (reading (.nextItem items) around).step token =
      beginValue token (.list items :: around) := by
    cases token <;> first | rfl | contradiction
  rw [run_of_token rfl found, begun]
  exact delivered _

theorem run_colon {members : List (Lexeme String × Draft)} {key : Lexeme String}
    (delivers : Delivers text draft) (ends : Ends rest) :
    (reading (.colon members key) around).run (ascii ':' :: (text ++ rest)) =
      (reading (.afterMember ((key, draft) :: members)) around).run rest := by
  have colon : nextToken (ascii ':' :: (text ++ rest)) = some (.colon, text ++ rest) := rfl
  rw [run_of_token rfl colon]
  exact run_value delivers ends

end Inside

theorem run_items {items : List Json} (each : ∀ item ∈ items, Delivers item.render item.draft)
    (done : List Draft) (around : List Enclosing) (rest : Bytes) :
    (reading (.afterItem done) around).run
        ((items.flatMap fun item => ascii ',' :: item.render) ++ ascii ']' :: rest) =
      (deliver (.list (done.reverse ++ items.map draft) .closed) around).run rest := by
  induction items generalizing done with
  | nil =>
      have close : nextToken (ascii ']' :: rest) = some (.closeList, rest) := rfl
      rw [List.flatMap_nil, List.nil_append, run_of_token rfl close, List.map_nil, List.append_nil]
      rfl
  | cons item items ih =>
      have later := ih fun other member => each other (List.mem_cons_of_mem _ member)
      have comma : ∀ octets, nextToken (ascii ',' :: octets) = some (.comma, octets) :=
        fun _ => rfl
      rw [List.flatMap_cons, List.cons_append, List.cons_append, run_of_token rfl (comma _),
        List.append_assoc]
      change (reading (.nextItem done) around).run _ = _
      rw [run_nextItem (each item (by simp)) (ends_items items rest), later]
      simp

theorem run_member {member : String × Json} (delivers : Delivers member.2.render member.2.draft)
    {place : Place} {done : List (Lexeme String × Draft)}
    (due : place = .objectStart ∧ done = [] ∨ place = .nextMember done)
    (around : List Enclosing) {rest : Bytes} (ends : Ends rest) :
    (reading place around).run (renderMember member ++ rest) =
      (reading (.afterMember ((.plain member.1, member.2.draft) :: done)) around).run rest := by
  have key := nextToken_renderText member.1 (ascii ':' :: (member.2.render ++ rest))
  have begun : (reading place around).step (.text (.plain member.1)) =
      reading (.colon done (.plain member.1)) around := by
    rcases due with ⟨rfl, rfl⟩ | rfl <;> rfl
  rw [renderMember, List.append_assoc, List.cons_append, run_of_token rfl key, begun]
  exact run_colon delivers ends

theorem run_members {members : List (String × Json)}
    (each : ∀ member ∈ members, Delivers member.2.render member.2.draft)
    (done : List (Lexeme String × Draft)) (around : List Enclosing) (rest : Bytes) :
    (reading (.afterMember done) around).run
        ((members.flatMap fun member => ascii ',' :: renderMember member) ++
          ascii '\x7d' :: rest) =
      (deliver (.object (done.reverse ++ draftMembers members) .closed) around).run rest := by
  induction members generalizing done with
  | nil =>
      have close : nextToken (ascii '\x7d' :: rest) = some (.closeObject, rest) := rfl
      rw [List.flatMap_nil, List.nil_append, run_of_token rfl close, draftMembers, List.append_nil]
      rfl
  | cons member members ih =>
      have later := ih fun other belongs => each other (List.mem_cons_of_mem _ belongs)
      have comma : ∀ octets, nextToken (ascii ',' :: octets) = some (.comma, octets) :=
        fun _ => rfl
      rw [List.flatMap_cons, List.cons_append, List.cons_append, run_of_token rfl (comma _),
        List.append_assoc]
      change (reading (.nextMember done) around).run _ = _
      rw [run_member (each member (by simp)) (Or.inr rfl) around (ends_members members rest), later]
      simp [draftMembers_eq_map]

theorem delivers_of_token {text : Bytes} {draft : Draft} {token : Token}
    (found : ∀ rest, Ends rest → nextToken (text ++ rest) = some (token, rest))
    (goesOn : token ≠ .closeList)
    (delivered : ∀ around, beginValue token around = deliver draft around) :
    Delivers text draft := by
  intro rest ends
  refine ⟨token, rest, found rest ends, goesOn, ?_⟩
  intro around
  rw [delivered]

theorem delivers_list {items : List Json}
    (each : ∀ item ∈ items, Delivers item.render item.draft) :
    Delivers (list items).render (list items).draft := by
  intro rest ends
  refine ⟨.openList, renderItems items ++ ascii ']' :: rest, ?_, by simp, ?_⟩
  · simp only [render, List.cons_append, List.append_assoc, List.nil_append]
    rfl
  intro around
  change (reading .listStart around).run _ = _
  rw [draft, draftItems_eq_map]
  cases items with
  | nil =>
      have close : nextToken (ascii ']' :: rest) = some (.closeList, rest) := rfl
      rw [renderItems, List.nil_append, run_of_token rfl close]
      rfl
  | cons item items =>
      have others := fun other member => each other (List.mem_cons_of_mem item member)
      rw [renderItems_cons, List.append_assoc,
        run_listStart (each item (by simp)) (ends_items items rest), run_items others]
      rfl

theorem delivers_object {members : List (String × Json)}
    (each : ∀ member ∈ members, Delivers member.2.render member.2.draft) :
    Delivers (object members).render (object members).draft := by
  intro rest ends
  refine ⟨.openObject, renderMembers members ++ ascii '\x7d' :: rest, ?_, by simp, ?_⟩
  · simp only [render, List.cons_append, List.append_assoc, List.nil_append]
    rfl
  intro around
  change (reading .objectStart around).run _ = _
  rw [draft]
  cases members with
  | nil =>
      have close : nextToken (ascii '\x7d' :: rest) = some (.closeObject, rest) := rfl
      rw [renderMembers, List.nil_append, run_of_token rfl close]
      rfl
  | cons member members =>
      have others := fun other belongs => each other (List.mem_cons_of_mem member belongs)
      rw [renderMembers_cons, List.append_assoc,
        run_member (each member (by simp)) (Or.inl ⟨rfl, rfl⟩) around (ends_members members rest),
        run_members others]
      rfl

theorem delivers_of_exact {data : Json} (exact : data.Exact) :
    Delivers data.render data.draft := by
  induction exact with
  | null => exact delivers_of_token (fun _ _ => rfl) (by simp) fun _ => rfl
  | boolean value =>
      have found : ∀ rest, Ends rest →
          nextToken ((boolean value).render ++ rest) = some (.boolean value, rest) := by
        intro rest _
        cases value <;> rfl
      exact delivers_of_token found (by simp) fun _ => rfl
  | integer exact =>
      exact delivers_of_token (fun _ ends => nextToken_ofInt exact ends) (by simp) fun _ => rfl
  | text value =>
      exact delivers_of_token (fun rest _ => nextToken_renderText value rest) (by simp)
        fun _ => rfl
  | list each ih => exact delivers_list ih
  | object each ih => exact delivers_object ih

end Assembly

/-- The draft of the text of data is that data, and nothing is left of the text. -/
theorem draftOf_render {data : Json} (exact : data.Exact) :
    draftOf data.render = (data.draft, false) := by
  have nothing : Ends [] := by simp [Ends]
  have read : Assembly.start.run (data.render ++ []) = (Assembly.deliver data.draft []).run [] :=
    Assembly.run_value (Assembly.delivers_of_exact exact) nothing
  rw [List.append_nil, Assembly.run_nil] at read
  rw [draftOf, read]
  rfl

theorem Exact.sorted {data : Json} (exact : data.Exact) : data.sorted.Exact := by
  induction exact with
  | null => exact .null
  | boolean value => exact .boolean value
  | integer exact => exact .integer exact
  | text value => exact .text value
  | list each ih =>
      rw [Json.sorted, sortedItems_eq_map]
      exact .list (List.forall_mem_map.mpr ih)
  | object each ih =>
      refine .object fun member belongs => ?_
      obtain ⟨raw, present, rfl⟩ := (mem_sortedMembers belongs).resolve_right (by simp)
      exact ih raw present

theorem parse_render {data : Json} (exact : data.Exact) (shallow : data.depth ≤ 127) :
    parse data.render = .ok data.sorted := by
  have read : Layout.anything.read .fullText data.draft = .ok data.sorted := by
    rw [Layout.read, data.toJson_draft]
    exact if_pos (decide_eq_true shallow)
  rw [parse, Layout.readText, draftOf_render exact]
  simp only [read, bind, Except.bind]
  rfl

end Debuggee.Json
