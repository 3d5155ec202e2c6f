import Sitework.Proofs.Json.Token

/-!
# Written JSON reads back

Reading the tokens of a value completes the value where there is room for its containers. So a
value is read from its own text, as far as every number in it is.
-/

namespace Sitework

namespace Json

namespace Reading

variable {frames : List Frame}

/-- There is room for one more container. -/
theorem close_eq (container : Json) (h : frames.length < maxDepth) :
    close container frames = .complete container frames := by
  have hroom : (frames.drop (maxDepth - 1)).isEmpty = true := by
    rw [List.isEmpty_iff, List.drop_eq_nil_iff]
    exact Nat.le_sub_one_of_lt h
  rw [close, if_pos hroom]

/-- The tokens of a value are read where a value is due, and complete it. -/
def Completes (frames : List Frame) (value : Json) : Prop :=
  value.tokens.foldlM step? (.value frames) = some (.complete value frames)

/-- The first token of a value does not end an array. -/
theorem foldlM_firstItem (value : Json) (more : List Token) :
    (value.tokens ++ more).foldlM step? (.firstItem frames) =
      (value.tokens ++ more).foldlM step? (.value (.array [] :: frames)) := by
  cases value <;> rfl

/-- Items and the end of their array are read one after the other. -/
theorem foldlM_itemTokens {items : List Json} {item : Json} {before : List Json}
    (h : ∀ i ∈ item :: items, ∀ frame, Completes (frame :: frames) i) :
    (itemTokens (item :: items) ++ [Token.arrayClose]).foldlM step?
      (.value (.array before :: frames)) =
        some (closeArray ((item :: items).reverse ++ before) frames) := by
  induction items generalizing item before with
  | nil =>
    have hitem : Completes (.array before :: frames) item := h item List.mem_cons_self _
    rw [itemTokens, List.foldlM_append, hitem]
    rfl
  | cons next items ih =>
    obtain ⟨hitem, hitems⟩ := List.forall_mem_cons.1 h
    have hfirst : Completes (.array before :: frames) item := hitem _
    have htokens : itemTokens (item :: next :: items) =
        item.tokens ++ .comma :: itemTokens (next :: items) := rfl
    rw [htokens, List.append_assoc, List.foldlM_append, hfirst, List.reverse_cons,
      List.append_assoc]
    exact ih hitems

/-- A key and a colon are read up to where the value is due. -/
theorem foldlM_key (key : String) (before : List (Option String × Json)) (more : List Token) :
    (Token.text (some key) :: .colon :: more).foldlM step? (.key before frames) =
      more.foldlM step? (.value (.object before (some key) :: frames)) :=
  rfl

/-- Members and the end of their object are read one after the other. -/
theorem foldlM_memberTokens {members : List (String × Json)} {member : String × Json}
    {before : List (Option String × Json)}
    (h : ∀ m ∈ member :: members, ∀ frame, Completes (frame :: frames) m.2) :
    (memberTokens (member :: members) ++ [Token.objectClose]).foldlM step? (.key before frames) =
      some (closeObject
        (((member :: members).map fun m => (some m.1, m.2)).reverse ++ before) frames) := by
  induction members generalizing member before with
  | nil =>
    have hmember : Completes (.object before (some member.1) :: frames) member.2 :=
      h member List.mem_cons_self _
    have htokens : memberTokens [member] ++ [Token.objectClose] =
        .text (some member.1) :: .colon :: (member.2.tokens ++ [.objectClose]) := rfl
    rw [htokens, foldlM_key, List.foldlM_append, hmember]
    rfl
  | cons next members ih =>
    obtain ⟨hmember, hmembers⟩ := List.forall_mem_cons.1 h
    have hfirst : Completes (.object before (some member.1) :: frames) member.2 := hmember _
    have htokens : memberTokens (member :: next :: members) ++ [Token.objectClose] =
        .text (some member.1) :: .colon ::
          (member.2.tokens ++ .comma :: (memberTokens (next :: members) ++ [.objectClose])) := by
      simp [memberTokens]
    rw [htokens, foldlM_key, List.foldlM_append, hfirst, List.map_cons, List.reverse_cons,
      List.append_assoc]
    exact ih hmembers

/-- An object whose keys can be held is made of its members. -/
theorem closeObject_eq (members : List (String × Json)) (frames : List Frame) :
    closeObject (members.map fun m => (some m.1, m.2)).reverse frames =
      close (.object members) frames := by
  have hall (hold : Option String × Json → Option (String × Json))
      (hhold : ∀ m : String × Json, hold (some m.1, m.2) = some m) :
      (members.map fun m => (some m.1, m.2)).mapM hold = some members := by
    induction members with
    | nil => rfl
    | cons member members ih =>
      rw [List.map_cons, List.mapM_cons, hhold, ih]
      rfl
  rw [closeObject, List.reverse_reverse, hall _ fun _ => rfl]

end Reading

/-- A value is complete after its tokens, if there is room for its containers. -/
theorem Within.completes {P : Binary64 → Prop} {depth : Nat} {value : Json}
    (h : value.Within P depth) {frames : List Frame} (hroom : frames.length + depth ≤ maxDepth) :
    Reading.Completes frames value := by
  induction h generalizing frames with
  | @array depth items _ ih =>
    have hframes : frames.length < maxDepth := by omega
    have hinner : ∀ i ∈ items, ∀ frame, Reading.Completes (frame :: frames) i := fun i hi frame =>
      ih i hi (by rw [List.length_cons]; omega)
    cases items with
    | nil => exact congrArg some (Reading.close_eq (.array []) hframes)
    | cons item items =>
      have hitems : (itemTokens (item :: items) ++ [Token.arrayClose]).foldlM Reading.step?
          (.value (.array [] :: frames)) = _ := Reading.foldlM_itemTokens hinner
      obtain ⟨more, hmore⟩ : ∃ more, itemTokens (item :: items) ++ [Token.arrayClose] =
          item.tokens ++ more := by
        cases items with
        | nil => exact ⟨_, rfl⟩
        | cons next items => exact ⟨_, List.append_assoc _ _ _⟩
      calc (Json.array (item :: items)).tokens.foldlM Reading.step? (.value frames)
        _ = (itemTokens (item :: items) ++ [Token.arrayClose]).foldlM Reading.step?
              (.firstItem frames) := rfl
        _ = (itemTokens (item :: items) ++ [Token.arrayClose]).foldlM Reading.step?
              (.value (.array [] :: frames)) := by rw [hmore, Reading.foldlM_firstItem]
        _ = some (Reading.close (.array (item :: items)) frames) := by
          rw [hitems, List.append_nil, Reading.closeArray, List.reverse_reverse]
        _ = some (.complete (.array (item :: items)) frames) := by
          rw [Reading.close_eq _ hframes]
  | @object depth members _ ih =>
    have hframes : frames.length < maxDepth := by omega
    have hinner : ∀ m ∈ members, ∀ frame, Reading.Completes (frame :: frames) m.2 :=
      fun m hm frame => ih m hm (by rw [List.length_cons]; omega)
    cases members with
    | nil => exact congrArg some (Reading.close_eq (.object []) hframes)
    | cons member members =>
      have hmembers : (memberTokens (member :: members) ++ [Token.objectClose]).foldlM
          Reading.step? (.key [] frames) = _ := Reading.foldlM_memberTokens hinner
      calc (Json.object (member :: members)).tokens.foldlM Reading.step? (.value frames)
        _ = (memberTokens (member :: members) ++ [Token.objectClose]).foldlM Reading.step?
              (.key [] frames) := by cases members <;> rfl
        _ = some (Reading.close (.object (member :: members)) frames) := by
          rw [hmembers, List.append_nil, Reading.closeObject_eq]
        _ = some (.complete (.object (member :: members)) frames) := by
          rw [Reading.close_eq _ hframes]
  | _ => rfl

/-- A value is read from its text. -/
theorem parse?_pretty {value : Json} (h : value.Within ReadsBack maxDepth) :
    parse? value.pretty = some value := by
  have hscan : Token.scan? value.pretty.toList = some value.tokens := by
    have hall := h.scans 0 [] Numeral.ends_nil
    rw [List.append_nil, Token.scan?, Option.map_some, List.append_nil] at hall
    rw [pretty, String.toList_ofList, hall]
  have hread : Reading.Completes [] value := h.completes (Nat.le_of_eq (Nat.zero_add _))
  have hskim : skim? value.pretty = some value := by
    rw [Reading.Completes] at hread
    simp [skim?, hscan, hread, Reading.value?]
  rw [parse?, hskim, Option.filter_some_pos h.isReadable]

end Json

end Sitework
