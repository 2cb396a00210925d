import Prebuild.Proofs.Json.Grammar
import Prebuild.Proofs.Json.Scalars

/-!
# Values that are written and read

A value whose numbers are integers is written as a text that spells it (`Integral.writesItself`),
so that it can be read back. And whatever else is written, integers or not, is written in another
way (`Integral.unmistakable`): the first character tells what kind of value it is, a number ends
at the first comma or line break, and behind an item or a member comes one of those.
-/

namespace Prebuild.Json

/-! ## Values -/

/-- The numbers in a value are integers that fit into 64 bits, with a sign or without. -/
inductive Integral : Json → Prop where
  | null : Integral .null
  | bool (value : Bool) : Integral (.bool value)
  | integer {n : Int} : -2 ^ 63 ≤ n → n < 2 ^ 64 → Integral (.number (.integer n))
  | string (value : String) : Integral (.string value)
  | array {items : List Json} : (∀ j ∈ items, Integral j) → Integral (.array items)
  | object {members : Members} : (∀ p ∈ members, Integral p.2) → Integral (.object members)

/-- The text behind an item: the other items, and the bracket on a line of its own. -/
def behindItem (level : Nat) (items : List Json) (rest : List Char) : List Char :=
  (String.join (prettyItems (level + 1) items)).toList ++ ((indent level).toList ++ ']' :: rest)

/-- The text behind a member: the other members, and the bracket on a line of its own. -/
def behindMember (level : Nat) (members : Members) (rest : List Char) : List Char :=
  (String.join (prettyMembers (level + 1) members)).toList ++
    ((indent level).toList ++ '\x7d' :: rest)

section Text

variable (level : Nat) (rest : List Char)

attribute [local simp] pretty prettyItems prettyMembers behindItem behindMember

theorem toList_indent : (indent level).toList = '\n' :: List.replicate (4 * level) ' ' := by
  simp [indent]

theorem blank_indent : Blank (indent level).toList := by
  rw [toList_indent]
  intro c hc
  rcases List.mem_cons.mp hc with rfl | hc
  · rfl
  · rw [List.eq_of_mem_replicate hc]
    rfl

theorem pretty_null : (pretty level .null).toList = ['n', 'u', 'l', 'l'] := by simp

theorem pretty_true : (pretty level (.bool true)).toList = ['t', 'r', 'u', 'e'] := by
  simp

theorem pretty_false : (pretty level (.bool false)).toList = ['f', 'a', 'l', 's', 'e'] := by
  simp

theorem pretty_string (s : String) :
    (pretty level (.string s)).toList ++ rest =
      '"' :: (s.toList.flatMap escape ++ '"' :: rest) := by
  rw [pretty, toList_literal]

theorem pretty_emptyArray : (pretty level (.array [])).toList = ['[', ']'] := by simp

theorem pretty_emptyObject : (pretty level (.object [])).toList = ['\x7b', '\x7d'] := by
  simp

theorem pretty_array (j : Json) (items : List Json) :
    (pretty level (.array (j :: items))).toList ++ rest =
      '[' :: ((indent (level + 1)).toList ++ ((pretty (level + 1) j).toList ++
        behindItem level items rest)) := by
  simp

theorem pretty_object (key : String) (j : Json) (members : Members) :
    (pretty level (.object ((key, j) :: members))).toList ++ rest =
      '\x7b' :: ((indent (level + 1)).toList ++ ((literal key).toList ++
        ':' :: ' ' :: ((pretty (level + 1) j).toList ++ behindMember level members rest))) := by
  simp

theorem behindItem_nil :
    behindItem level [] rest = (indent level).toList ++ ']' :: rest := by
  simp

theorem behindItem_cons (j : Json) (items : List Json) :
    behindItem level (j :: items) rest =
      ',' :: ((indent (level + 1)).toList ++ ((pretty (level + 1) j).toList ++
        behindItem level items rest)) := by
  simp

theorem behindMember_nil :
    behindMember level [] rest = (indent level).toList ++ '\x7d' :: rest := by
  simp

theorem behindMember_cons (key : String) (j : Json) (members : Members) :
    behindMember level ((key, j) :: members) rest =
      ',' :: ((indent (level + 1)).toList ++ ((literal key).toList ++
        ':' :: ' ' :: ((pretty (level + 1) j).toList ++ behindMember level members rest))) := by
  simp

theorem stop_behindItem (items : List Json) : Stop (behindItem level items rest) := by
  cases items with
  | nil =>
    rw [behindItem_nil, toList_indent]
    exact .line _
  | cons j items =>
    rw [behindItem_cons]
    exact .comma _

theorem stop_behindMember (members : Members) : Stop (behindMember level members rest) := by
  cases members with
  | nil =>
    rw [behindMember_nil, toList_indent]
    exact .line _
  | cons m members =>
    rw [behindMember_cons]
    exact .comma _

end Text

/-! ## What is written spells the value -/

/-- A written value spells itself, at every level. -/
def WritesItself (j : Json) : Prop :=
  ∀ level rest, Stop rest → Spells (.value j) ((pretty level j).toList ++ rest) rest

theorem spells_member {key : String} {text rest : List Char} {j : Json}
    (h : Spells (.value j) text rest) :
    Spells (.member key j) ((literal key).toList ++ ':' :: ' ' :: text) rest := by
  rw [toList_literal]
  exact .member (readString_literal key _) (.valueOfMember (.space rfl h))

theorem spells_behindItem {items : List Json} (h : ∀ j ∈ items, WritesItself j) (level : Nat)
    (rest : List Char) : Spells (.moreItems items) (behindItem level items rest) rest := by
  induction items with
  | nil =>
    rw [behindItem_nil]
    exact .append_blank (blank_indent level) .lastItem
  | cons j items ih =>
    rw [behindItem_cons]
    exact .nextItem
      (.append_blank (blank_indent _) (h j List.mem_cons_self _ _ (stop_behindItem ..)))
      (ih fun k hk => h k (List.mem_cons_of_mem j hk))

theorem spells_behindMember {members : Members} (h : ∀ p ∈ members, WritesItself p.2)
    (level : Nat) (rest : List Char) :
    Spells (.moreMembers members) (behindMember level members rest) rest := by
  induction members with
  | nil =>
    rw [behindMember_nil]
    exact .append_blank (blank_indent level) .lastMember
  | cons m members ih =>
    rw [behindMember_cons]
    exact .nextMember
      (.append_blank (blank_indent _)
        (spells_member (h m List.mem_cons_self _ _ (stop_behindMember ..))))
      (ih fun p hp => h p (List.mem_cons_of_mem m hp))

/-- **What is written for a value spells it**, if its numbers are integers. -/
theorem Integral.writesItself {j : Json} (h : j.Integral) : WritesItself j := by
  induction h with
  | null =>
    intro level rest _
    rw [pretty_null]
    exact .scalar rfl
  | bool b =>
    intro level rest _
    cases b with
    | true =>
      rw [pretty_true]
      exact .scalar rfl
    | false =>
      rw [pretty_false]
      exact .scalar rfl
  | integer hlow hhigh =>
    intro level rest hrest
    obtain ⟨c, cs, hcs, hread⟩ := readScalar_numeral hlow hhigh hrest
    rw [pretty, hcs]
    exact .scalar hread
  | string s =>
    intro level rest _
    rw [pretty_string]
    refine .scalar ?_
    rw [readScalar, if_pos rfl, readString_literal]
    rfl
  | @array items _ ih =>
    intro level rest _
    cases items with
    | nil =>
      rw [pretty_emptyArray]
      exact .emptyArray (show Blank [] by decide)
    | cons j items =>
      rw [pretty_array]
      exact .array
        (.append_blank (blank_indent _) (ih j List.mem_cons_self _ _ (stop_behindItem ..)))
        (spells_behindItem (fun k hk => ih k (List.mem_cons_of_mem j hk)) level rest)
  | @object members _ ih =>
    intro level rest _
    cases members with
    | nil =>
      rw [pretty_emptyObject]
      exact .emptyObject (show Blank [] by decide)
    | cons m members =>
      rw [pretty_object]
      exact .object
        (.append_blank (blank_indent _)
          (spells_member (ih m List.mem_cons_self _ _ (stop_behindMember ..))))
        (spells_behindMember (fun p hp => ih p (List.mem_cons_of_mem m hp)) level rest)

/-- **The text of an object spells the object**, if its numbers are integers. -/
theorem Members.isSpelling_pretty {ms : Members} (h : (Json.object ms).Integral) :
    IsSpelling ms.pretty (.object ms) := by
  refine ⟨[], ?_, nofun⟩
  have hspells := h.writesItself 0 [] .nothing
  rwa [List.append_nil] at hspells

/-! ## No text is written for two values -/

/-- The character that the text of a value begins with. A number has none of its own. -/
def lead? : Json → Option Char
  | .null => some 'n'
  | .bool b => some (if b then 't' else 'f')
  | .number _ => none
  | .string _ => some '"'
  | .array _ => some '['
  | .object _ => some '\x7b'

theorem pretty_starts (level : Nat) (j : Json) :
    ∃ c cs, (pretty level j).toList = c :: cs ∧
      j.lead? = if c ∈ ['n', 't', 'f', '"', '[', '\x7b'] then some c else none := by
  cases j with
  | null => exact ⟨_, _, pretty_null level, rfl⟩
  | bool b =>
    cases b with
    | true => exact ⟨_, _, pretty_true level, rfl⟩
    | false => exact ⟨_, _, pretty_false level, rfl⟩
  | number n =>
    obtain ⟨c, cs, hcs, hc⟩ := numeral_starts n
    refine ⟨c, cs, ?_, (if_neg hc).symm⟩
    rw [pretty, hcs]
  | string s =>
    have htext := pretty_string level [] s
    rw [List.append_nil] at htext
    exact ⟨_, _, htext, rfl⟩
  | array items =>
    cases items with
    | nil => exact ⟨_, _, pretty_emptyArray level, rfl⟩
    | cons j items =>
      have htext := pretty_array level [] j items
      rw [List.append_nil] at htext
      exact ⟨_, _, htext, rfl⟩
  | object members =>
    cases members with
    | nil => exact ⟨_, _, pretty_emptyObject level, rfl⟩
    | cons m members =>
      have htext := pretty_object level [] m.1 m.2 members
      rw [List.append_nil] at htext
      exact ⟨_, _, htext, rfl⟩

/-- Values with the same text begin with the same character. -/
theorem lead?_eq {level : Nat} {j j' : Json} {rest rest' : List Char}
    (h : (pretty level j).toList ++ rest = (pretty level j').toList ++ rest') :
    j.lead? = j'.lead? := by
  obtain ⟨c, cs, hcs, hc⟩ := pretty_starts level j
  obtain ⟨c', cs', hcs', hc'⟩ := pretty_starts level j'
  rw [hcs, hcs', List.cons_append, List.cons_append] at h
  rw [hc, hc', (List.cons.inj h).1]

/-- No other value is written as this one. -/
def Unmistakable (j : Json) : Prop :=
  ∀ {level : Nat} {j' : Json} {rest rest' : List Char}, Stop rest → Stop rest' →
    (pretty level j).toList ++ rest = (pretty level j').toList ++ rest' → j = j' ∧ rest = rest'

theorem unmistakable_literal {s s' : String} {rest rest' : List Char}
    (h : (literal s).toList ++ rest = (literal s').toList ++ rest') : s = s' ∧ rest = rest' := by
  rw [toList_literal, toList_literal] at h
  have hread := readString_literal s rest
  rw [(List.cons.inj h).2, readString_literal] at hread
  simpa [eq_comm] using hread

theorem unmistakable_behindItem {items : List Json} (hitems : ∀ j ∈ items, Unmistakable j)
    {items' : List Json} {level : Nat} {rest rest' : List Char}
    (h : behindItem level items rest = behindItem level items' rest') :
    items = items' ∧ rest = rest' := by
  induction items generalizing items' with
  | nil =>
    cases items' with
    | nil =>
      rw [behindItem_nil, behindItem_nil] at h
      simpa using List.append_cancel_left h
    | cons j' items' =>
      rw [behindItem_nil, behindItem_cons, toList_indent] at h
      simp at h
  | cons j items ih =>
    cases items' with
    | nil =>
      rw [behindItem_nil, behindItem_cons, toList_indent level] at h
      simp at h
    | cons j' items' =>
      rw [behindItem_cons, behindItem_cons] at h
      obtain ⟨rfl, hbehind⟩ := hitems j List.mem_cons_self (stop_behindItem ..)
        (stop_behindItem ..) (List.append_cancel_left (List.cons.inj h).2)
      obtain ⟨rfl, hrest⟩ := ih (fun k hk => hitems k (List.mem_cons_of_mem j hk)) hbehind
      exact ⟨rfl, hrest⟩

/-- A member in front of others: its key, its value, and what is behind it. -/
theorem unmistakable_member {key key' : String} {j j' : Json} (hj : Unmistakable j)
    {members members' : Members} {level : Nat} {rest rest' : List Char}
    (h : (literal key).toList ++ ':' :: ' ' :: ((pretty (level + 1) j).toList ++
        behindMember level members rest) =
      (literal key').toList ++ ':' :: ' ' :: ((pretty (level + 1) j').toList ++
        behindMember level members' rest')) :
    key = key' ∧ j = j' ∧
      behindMember level members rest = behindMember level members' rest' := by
  obtain ⟨hkey, hvalue⟩ := unmistakable_literal h
  exact ⟨hkey, hj (stop_behindMember ..) (stop_behindMember ..)
    (List.cons.inj (List.cons.inj hvalue).2).2⟩

theorem unmistakable_behindMember {members : Members} (hm : ∀ p ∈ members, Unmistakable p.2)
    {members' : Members} {level : Nat} {rest rest' : List Char}
    (h : behindMember level members rest = behindMember level members' rest') :
    members = members' ∧ rest = rest' := by
  induction members generalizing members' with
  | nil =>
    cases members' with
    | nil =>
      rw [behindMember_nil, behindMember_nil] at h
      simpa using List.append_cancel_left h
    | cons m' members' =>
      rw [behindMember_nil, behindMember_cons, toList_indent] at h
      simp at h
  | cons m members ih =>
    cases members' with
    | nil =>
      rw [behindMember_nil, behindMember_cons, toList_indent level] at h
      simp at h
    | cons m' members' =>
      rw [behindMember_cons, behindMember_cons] at h
      obtain ⟨hkey, hvalue, hbehind⟩ := unmistakable_member (hm m List.mem_cons_self)
        (List.append_cancel_left (List.cons.inj h).2)
      obtain ⟨rfl, hrest⟩ := ih (fun p hp => hm p (List.mem_cons_of_mem m hp)) hbehind
      exact ⟨congrArg (· :: members) (Prod.ext hkey hvalue), hrest⟩

/-- **Whatever is written as a value whose numbers are integers is that value.** -/
theorem Integral.unmistakable {j : Json} (h : j.Integral) : Unmistakable j := by
  induction h with
  | null =>
    intro level j' rest rest' hrest hrest' h
    have hlead := lead?_eq h
    cases j' with
    | null => exact ⟨rfl, List.append_cancel_left h⟩
    | bool b => cases b <;> cases hlead
    | _ => cases hlead
  | bool b =>
    intro level j' rest rest' hrest hrest' h
    have hlead := lead?_eq h
    cases j' with
    | bool b' =>
      obtain rfl : b = b' := by cases b <;> cases b' <;> first | rfl | cases hlead
      exact ⟨rfl, List.append_cancel_left h⟩
    | _ => cases b <;> cases hlead
  | @integer n hlow hhigh =>
    intro level j' rest rest' hrest hrest' h
    have hlead := lead?_eq h
    cases j' with
    | number n' =>
      obtain ⟨hnumeral, hrests⟩ := numeral_append hrest hrest' h
      cases n' with
      | integer n' =>
        obtain rfl := numeral_integer_injective hnumeral
        exact ⟨rfl, hrests⟩
      | real x => exact absurd hnumeral (numeral_integer_ne_real n x)
    | _ => cases hlead
  | string s =>
    intro level j' rest rest' hrest hrest' h
    have hlead := lead?_eq h
    cases j' with
    | string s' =>
      obtain ⟨rfl, hrests⟩ := unmistakable_literal h
      exact ⟨rfl, hrests⟩
    | bool b => cases b <;> cases hlead
    | _ => cases hlead
  | @array items _ ih =>
    intro level j' rest rest' hrest hrest' h
    have hlead := lead?_eq h
    cases j' with
    | array items' =>
      cases items with
      | nil =>
        cases items' with
        | nil => exact ⟨rfl, List.append_cancel_left h⟩
        | cons j' items' =>
          rw [pretty_emptyArray, pretty_array, toList_indent] at h
          simp at h
      | cons j items =>
        cases items' with
        | nil =>
          rw [pretty_emptyArray, pretty_array, toList_indent] at h
          simp at h
        | cons j' items' =>
          rw [pretty_array, pretty_array] at h
          obtain ⟨rfl, hbehind⟩ := ih j List.mem_cons_self (stop_behindItem ..)
            (stop_behindItem ..) (List.append_cancel_left (List.cons.inj h).2)
          obtain ⟨rfl, hrests⟩ := unmistakable_behindItem
            (fun k hk => ih k (List.mem_cons_of_mem j hk)) hbehind
          exact ⟨rfl, hrests⟩
    | bool b => cases b <;> cases hlead
    | _ => cases hlead
  | @object members _ ih =>
    intro level j' rest rest' hrest hrest' h
    have hlead := lead?_eq h
    cases j' with
    | object members' =>
      cases members with
      | nil =>
        cases members' with
        | nil => exact ⟨rfl, List.append_cancel_left h⟩
        | cons m' members' =>
          rw [pretty_emptyObject, pretty_object, toList_indent] at h
          simp at h
      | cons m members =>
        cases members' with
        | nil =>
          rw [pretty_emptyObject, pretty_object, toList_indent] at h
          simp at h
        | cons m' members' =>
          rw [pretty_object, pretty_object] at h
          obtain ⟨hkey, hvalue, hbehind⟩ := unmistakable_member (ih m List.mem_cons_self)
            (List.append_cancel_left (List.cons.inj h).2)
          obtain ⟨rfl, hrests⟩ := unmistakable_behindMember
            (fun p hp => ih p (List.mem_cons_of_mem m hp)) hbehind
          exact ⟨congrArg (Json.object <| · :: members) (Prod.ext hkey hvalue), hrests⟩
    | bool b => cases b <;> cases hlead
    | _ => cases hlead

end Prebuild.Json
