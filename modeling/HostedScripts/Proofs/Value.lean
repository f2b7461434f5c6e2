import HostedScripts.Value
import HostedScripts.Proofs.Dictionary
import HostedScripts.Proofs.Json.Documents

/-! # Values survive their texts

A value without doubles comes back from its compact JSON text as it was (`Value.parse_jsonText`): integers
as integers, up to both ends of 64 bits, texts as texts with all their characters, and maps in the order of
their keys. Arrays and maps may stand inside each other up to the 127 brackets that the reader allows. So
what somebody typed as the text of a truth value, an integer, an array or a map is that value. -/

namespace HostedScripts.Value

/-- A value without doubles whose maps are in the order of their keys, with no more arrays and maps inside
each other than a number. -/
inductive Plain : Nat → Value → Prop
  | null (depth : Nat) : Plain depth .null
  | bool (depth : Nat) (b : Bool) : Plain depth (.bool b)
  | int (depth : Nat) (n : Int64) : Plain depth (.int n)
  | string (depth : Nat) (s : String) : Plain depth (.string s)
  | array {depth : Nat} {vs : List Value} (h : ∀ v ∈ vs, Plain depth v) :
    Plain (depth + 1) (.array vs)
  | map {depth : Nat} {entries : List (String × Value)} (hkeys : Dictionary.Increasing entries)
    (h : ∀ entry ∈ entries, Plain depth entry.2) : Plain (depth + 1) (.map entries)

variable {depth : Nat} {v : Value}

theorem elementsToJson_eq (vs : List Value) : elementsToJson vs = vs.map toJson := by
  induction vs with
  | nil => rfl
  | cons v vs ih => rw [elementsToJson, ih, List.map_cons]

theorem entriesToJson_eq (entries : List (String × Value)) :
    entriesToJson entries = entries.map fun entry => (entry.1, entry.2.toJson) := by
  induction entries with
  | nil => rfl
  | cons entry entries ih => rw [entriesToJson, ih, List.map_cons]

theorem ofElements_eq (es : List Json) : ofElements es = es.map ofJson := by
  induction es with
  | nil => rfl
  | cons e es ih => rw [ofElements, ih, List.map_cons]

theorem ofMembers_eq (ms : List (String × Json)) :
    ofMembers ms = ms.map fun m => (m.1, ofJson m.2) := by
  induction ms with
  | nil => rfl
  | cons m ms ih => rw [ofMembers, ih, List.map_cons]

theorem fits_toInt (n : Int64) : Json.Cursor.Fits n.toInt := by
  have hlow := n.le_toInt
  have hhigh := n.toInt_lt
  exact ⟨hlow, by omega⟩

theorem plain_toJson (h : Plain depth v) : Json.Plain depth v.toJson := by
  induction h with
  | null depth => exact .null depth
  | bool depth b => exact .bool depth b
  | int depth n => exact .int depth (fits_toInt n)
  | string depth s => exact .string depth s
  | array h ih =>
    rw [toJson, elementsToJson_eq]
    refine .array fun e he => ?_
    obtain ⟨v, hv, rfl⟩ := List.mem_map.mp he
    exact ih v hv
  | map hkeys h ih =>
    rw [toJson, entriesToJson_eq]
    refine .object fun m hm => ?_
    obtain ⟨entry, hentry, rfl⟩ := List.mem_map.mp hm
    exact ih entry hentry

theorem ofInteger_toInt (n : Int64) : ofInteger n.toInt = int n := by
  have hfits : fitsInt64 n.toInt = true := by
    unfold fitsInt64
    rw [Bool.and_eq_true, decide_eq_true_eq, decide_eq_true_eq]
    exact ⟨n.minValue_le_toInt, n.toInt_le⟩
  unfold ofInteger
  rw [if_pos hfits, Int64.ofInt_toInt]

/-- **The document of a value stands for that value.** -/
theorem ofJson_toJson (h : Plain depth v) : ofJson v.toJson = v := by
  induction h with
  | null => rfl
  | bool => rfl
  | int depth n => exact ofInteger_toInt n
  | string => rfl
  | @array depth vs h ih =>
    have hsame : vs.map (ofJson ∘ toJson) = vs := (List.map_congr_left ih).trans (List.map_id vs)
    rw [toJson, elementsToJson_eq, ofJson, ofElements_eq, List.map_map, hsame]
  | @map depth entries hkeys h ih =>
    have hsame : entries.map ((fun m => (m.1, ofJson m.2)) ∘ fun entry => (entry.1, entry.2.toJson)) =
        entries := by
      refine (List.map_congr_left fun entry hentry => ?_).trans (List.map_id entries)
      exact congrArg (Prod.mk entry.1) (ih entry hentry)
    rw [toJson, entriesToJson_eq, ofJson, ofMembers_eq, List.map_map, hsame,
      Dictionary.ofEntries_of_increasing hkeys]

/-- What is written as JSON is the plain text of a value that is neither a text nor missing. -/
theorem text_eq_jsonText (h : Plain depth v)
    (htype : v.typeName ∈ ["boolean", "integer", "array", "map"]) : v.text = v.jsonText := by
  cases h with
  | null => simp [typeName] at htype
  | string => simp [typeName] at htype
  | bool _ b => cases b <;> rfl
  | int _ n =>
    unfold text jsonText Json.render
    rw [toJson, Json.chars, String.ofList_toList]
  | array => rfl
  | map => rfl

/-- **Values survive their texts.** A value without doubles that has at most 127 arrays and maps inside each
other is what its compact JSON text holds. If it is a truth value, an integer, an array or a map, it is also
what somebody gets who types its plain text. -/
theorem parse_jsonText (h : Plain 127 v) :
    parse v.jsonText = .ok v ∧
      (v.typeName ∈ ["boolean", "integer", "array", "map"] → parseLiteral v.text = v) := by
  have hparse : parse v.jsonText = .ok v := by
    unfold parse jsonText
    rw [Json.parse_render (plain_toJson h)]
    exact congrArg Except.ok (ofJson_toJson h)
  refine ⟨hparse, fun htype => ?_⟩
  unfold parseLiteral
  rw [text_eq_jsonText h htype, hparse]

/-- A map with the ends of 64 bits in it, and with quotes, control characters and characters of four bytes in
its keys and texts. -/
def sampleMap : Value :=
  .map [("", .array [.int Int64.minValue, .int Int64.maxValue, .int 0, .null, .bool true]),
    ("\x00\n\x1f", .string "\"\\/\x08\x0c\t\x7f"),
    ("é😀", .array [.map [("\"", .string "😀")], .array []])]

theorem parse_jsonText_sampleMap :
    parse sampleMap.jsonText = .ok sampleMap ∧ parseLiteral sampleMap.text = sampleMap := by
  have hends : Plain 126
      (.array [.int Int64.minValue, .int Int64.maxValue, .int 0, .null, .bool true]) :=
    .array (by simp [Plain.int, Plain.null, Plain.bool])
  have hinner : Plain 125 (.map [("\"", .string "😀")]) :=
    .map (List.pairwise_singleton _ _) (by simp [Plain.string])
  have hempty : Plain 125 (.array []) := .array (by simp)
  have houter : Plain 126 (.array [.map [("\"", .string "😀")], .array []]) :=
    .array (by simp [hinner, hempty])
  have hplain : Plain 127 sampleMap :=
    .map (by unfold Dictionary.Increasing; decide +kernel) (by simp [hends, houter, Plain.string])
  exact ⟨(parse_jsonText hplain).1, (parse_jsonText hplain).2 (by decide)⟩

end HostedScripts.Value
