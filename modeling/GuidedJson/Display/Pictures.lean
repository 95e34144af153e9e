import GuidedJson.Display.PictureNames
import GuidedJson.Text.Blank
import GuidedJson.Text.Case
import GuidedJson.Text.Hex
import Std.Data.HashMap

/-! # Pictures by name

A name between two colons stands for a picture, as in `:smile:`, if it is known in lower case and
has no blank in it. Its end may ask for the picture as text or in colours.
-/

namespace GuidedJson.Display

/-! ## Names -/

/-- The number that hexadecimal digits write. -/
def hexNumber (digits : List Char) : Nat :=
  digits.foldl (fun n c => 16 * n + Text.hexValue c) 0

/-- The picture of an entry: the characters of its code points. -/
def entryPicture (codes : String) : List Char :=
  (codes.splitOn ",").map fun code => Char.ofNat (hexNumber code.toList)

/-- The entries of the table. -/
def pictureEntries : List (String × List Char) :=
  (pictureNames.splitOn "\n").flatMap fun line =>
    (line.splitOn " ").filterMap fun entry =>
      match entry.splitOn "=" with
      | [name, codes] => some (name, entryPicture codes)
      | _ => none

/-- The pictures by name. -/
def pictures : Std.HashMap String (List Char) := .ofList pictureEntries

/-! ## Codes -/

/-- What a name can end with, and the character that it adds. -/
def variants : List (List Char × Char) :=
  [("-emoji".toList, Char.ofNat 0xFE0F), ("-text".toList, Char.ofNat 0xFE0E)]

/-- A name without the variant that it ends with, and the character of the variant. -/
def splitVariant (name : List Char) : List Char × List Char :=
  match variants.find? fun (ending, _) => ending.isSuffixOf name with
  | some (ending, mark) => (name.take (name.length - ending.length), [mark])
  | none => (name, [])

/-- The picture of what stands between two colons. -/
def picture? (code : List Char) : Option (List Char) :=
  let (name, mark) := splitVariant code
  (pictures[Text.lower (String.ofList name)]?).map (· ++ mark)

/-- What stands before the next colon, and what follows it; none if a blank comes first. -/
def codeEnd? : List Char → Option (List Char × List Char)
  | [] => none
  | c :: rest =>
    if c = ':' then some ([], rest)
    else if Text.isBlank c then none
    else (codeEnd? rest).map fun (code, after) => (c :: code, after)

theorem length_lt_of_codeEnd? {cs code after : List Char} (h : codeEnd? cs = some (code, after)) :
    after.length < cs.length := by
  induction cs generalizing code with
  | nil => simp [codeEnd?] at h
  | cons c rest ih =>
    simp only [codeEnd?] at h
    split at h
    · simp only [Option.some.injEq, Prod.mk.injEq] at h
      simp [← h.2]
    · split at h
      · simp at h
      · obtain ⟨⟨i, a⟩, ha, he⟩ := Option.map_eq_some_iff.1 h
        simp only [Prod.mk.injEq] at he
        have := ih (he.2 ▸ ha)
        simp only [List.length_cons]
        omega

/-- A text with its pictures; what is no name stays. -/
def withPictures (cs : List Char) : List Char :=
  match cs with
  | [] => []
  | c :: rest =>
    if c = ':' then
      match h : codeEnd? rest with
      | some (code, after) =>
        have := length_lt_of_codeEnd? h
        (picture? code).getD (':' :: code ++ [':']) ++ withPictures after
      | none => c :: withPictures rest
    else c :: withPictures rest
termination_by cs.length
decreasing_by all_goals simp_wf <;> omega

theorem withPictures_nil : withPictures [] = [] := by simp [withPictures]

end GuidedJson.Display
