import Sitework.Blob
import Sitework.Proofs.Text.Base64
import Sitework.Proofs.Text.Split

/-!
# Data URLs read back

A blob is read from its data URL, unless the name of its type holds a comma: the payload is taken to
begin at the first one, and then nothing is read. What is read from a data URL is such a blob.
-/

namespace Sitework

namespace Blob

/-- A blob is read from its data URL, if there is no comma in the name of its type. -/
theorem ofDataUrl_toDataUrl {b : Blob} (h : ',' ∉ b.mime.toList) :
    ofDataUrl b.toDataUrl = .ok b := by
  have hurl : b.toDataUrl.toList = dataScheme.toList ++
      ((b.mime.toList ++ base64Mark.toList) ++ ',' :: (Base64.toText b.data).toList) := by
    simp [toDataUrl]
  have hheader : ',' ∉ b.mime.toList ++ base64Mark.toList := by
    rw [List.mem_append, not_or]
    exact ⟨h, by decide⟩
  unfold ofDataUrl
  rw [hurl, Text.after?_append, Option.bind_some, Text.breakOn?_append hheader]
  simp only [Text.before?_append, String.ofList_toList, Base64.ofText_toText]

/-- The type of a blob that was read from a data URL has a name without a comma. -/
theorem not_mem_mime_of_ofDataUrl {url : String} {b : Blob} (h : ofDataUrl url = .ok b) :
    ',' ∉ b.mime.toList := by
  unfold ofDataUrl at h
  split at h
  · cases h
  · next header payload hheader =>
    split at h
    · cases h
    · next mime hmime =>
      split at h
      · obtain rfl := Except.ok.inj h
        obtain ⟨rest, -, hbreak⟩ := Option.bind_eq_some_iff.1 hheader
        have hall := Text.not_mem_of_breakOn? hbreak
        rw [← Text.append_of_before? hmime, List.mem_append, not_or] at hall
        rw [String.toList_ofList]
        exact hall.1
      · cases h

/-- A blob that was read from a data URL is read from its own data URL. -/
theorem ofDataUrl_toDataUrl_of_ofDataUrl {url : String} {b : Blob} (h : ofDataUrl url = .ok b) :
    ofDataUrl b.toDataUrl = .ok b :=
  ofDataUrl_toDataUrl (not_mem_mime_of_ofDataUrl h)

/-- Nothing is read if the name of the type holds a comma: either the mark of bytes is not right
before the first one, or what follows holds the comma before the bytes, which is no symbol. -/
theorem exists_ofDataUrl_of_comma {b : Blob} {header rest : List Char}
    (hmime : b.mime.toList = header ++ ',' :: rest) (hheader : ',' ∉ header) :
    ∃ fault, ofDataUrl b.toDataUrl =
      if base64Mark.toList <:+ header then .error (.payload fault) else .error .notBase64 := by
  let payload := rest ++ base64Mark.toList ++ ',' :: (Base64.toText b.data).toList
  have hurl : b.toDataUrl.toList = dataScheme.toList ++ (header ++ ',' :: payload) := by
    simp [toDataUrl, hmime, payload]
  unfold ofDataUrl
  rw [hurl, Text.after?_append, Option.bind_some, Text.breakOn?_append hheader]
  cases hmark : Text.before? base64Mark.toList header with
  | none => exact ⟨.padding, by simp only [hmark, if_neg (Text.before?_eq_none_iff.1 hmark)]⟩
  | some mime =>
    have hsuffix : base64Mark.toList <:+ header := ⟨mime, Text.append_of_before? hmark⟩
    cases hpayload : Base64.ofText (String.ofList payload) with
    | error fault => exact ⟨fault, by simp only [hmark, hpayload, if_pos hsuffix]⟩
    | ok data =>
      have hnone := Base64.not_mem_of_ofText hpayload (c := ',') (by decide)
      rw [String.toList_ofList] at hnone
      exact absurd (List.mem_append_right _ List.mem_cons_self) hnone

/-- A blob is read from its own data URL exactly if there is no comma in the name of its type. With
one no blob is read at all, and never another one. -/
theorem exists_ofDataUrl_toDataUrl (b : Blob) : ∃ fault, ofDataUrl b.toDataUrl =
    if ',' ∉ b.mime.toList then .ok b
    else if base64Mark.toList <:+ b.mime.toList.takeWhile (· != ',') then .error (.payload fault)
    else .error .notBase64 := by
  by_cases hcomma : ',' ∈ b.mime.toList
  · obtain ⟨header, rest, hmime, hheader⟩ := List.eq_append_cons_of_mem hcomma
    have hfirst : b.mime.toList.takeWhile (· != ',') = header := by
      rw [hmime, List.takeWhile_append_of_pos fun c hc => ?_]
      · simp
      · exact bne_iff_ne.2 fun heq => hheader (heq ▸ hc)
    obtain ⟨fault, hfault⟩ := exists_ofDataUrl_of_comma hmime hheader
    exact ⟨fault, by rw [if_neg (not_not_intro hcomma), hfirst, hfault]⟩
  · exact ⟨.padding, (ofDataUrl_toDataUrl hcomma).trans (if_pos hcomma).symm⟩

end Blob

end Sitework
