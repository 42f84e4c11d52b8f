import SceneBridge.Proofs.ColourTexts
import SceneBridge.Proofs.ValueRoundTrip

/-!
# Colours and their numbers

A colour that is made of an integer has the last three bytes of it for its number, whatever its sign
and size, and six hexadecimal digits for its text. The colour that is made of this text behind a
mark, and the value that the text is converted to, have the same number again.
-/

namespace SceneBridge

open Text Number

/-! ## Channels -/

namespace Colour

variable {code : Nat}

set_option maxRecDepth 4000 in
/-- A byte is what its channel is rounded to. -/
theorem channelByte?_channel {b : Nat} (h : b < 256) : Datum.channelByte? (channel b) = some b := by
  have hall : (List.range 256).all (fun b => Datum.channelByte? (channel b) == some b) = true := by
    decide +kernel
  simpa using List.all_eq_true.1 hall b (List.mem_range.2 h)

theorem ofCode_eq (n : Int) : ofCode n =
    [channel ((n % 16777216).toNat / 65536 : Nat), channel ((n % 16777216).toNat / 256 % 256 : Nat),
      channel ((n % 16777216).toNat % 256 : Nat)] := by
  push_cast
  rfl

/-- The number of a colour that is made of an integer is the last three bytes of it. -/
theorem colourCode?_ofCode (n : Int) :
    Datum.colourCode? (ofCode n) = some (n % 16777216).toNat := by
  have hcode : (n % 16777216).toNat < 16777216 := by omega
  rw [ofCode_eq, Datum.colourCode?, channelByte?_channel (by omega), channelByte?_channel (by omega),
    channelByte?_channel (by omega)]
  simp only [Option.bind_eq_bind, Option.bind_some, Option.pure_def, Option.some.injEq]
  omega

/-! ## Digits -/

/-- The six hexadecimal digits of a code in small letters, the highest one in front. -/
def sixDigits (code : Nat) : List Char :=
  [5, 4, 3, 2, 1, 0].map fun k => Nat.digitChar (code / 16 ^ k % 16)

/-- The last digit of a padded number stands behind the padded rest. -/
theorem hexDigits_succ {width : Nat} (hwidth : 0 < width) (n : Nat) :
    hexDigits (width + 1) n = hexDigits width (n / 16) ++ [Nat.digitChar (n % 16)] := by
  unfold hexDigits
  by_cases hn : 16 ≤ n
  · simp [Nat.toDigits_of_base_le (by decide : 1 < 16) hn]
  · have hsmall : n < 16 := by omega
    have hzero : n / 16 = 0 := by omega
    have hpadding : width = width - 1 + 1 := by omega
    rw [Nat.toDigits_of_lt_base hsmall, hzero, Nat.mod_eq_of_lt hsmall]
    -- Of the number zero, one digit is there already.
    have hone : Nat.toDigits 16 0 = ['0'] := rfl
    rw [hone]
    simp only [List.length_singleton, Nat.add_sub_cancel]
    conv_lhs => rw [hpadding, List.replicate_succ']

theorem hexDigits_six (h : code < 16777216) : hexDigits 6 code = sixDigits code := by
  have hlast : code / 16 / 16 / 16 / 16 / 16 < 16 := by omega
  have hone {n : Nat} (hn : n < 16) : hexDigits 1 n = [Nat.digitChar n] := by
    rw [hexDigits, Nat.toDigits_of_lt_base hn]
    rfl
  simp only [hexDigits_succ (by decide : 0 < 5), hexDigits_succ (by decide : 0 < 4),
    hexDigits_succ (by decide : 0 < 3), hexDigits_succ (by decide : 0 < 2),
    hexDigits_succ (by decide : 0 < 1), hone hlast]
  simp only [sixDigits, List.map_cons, List.map_nil, Nat.div_div_eq_div_mul]
  simp [Nat.mod_eq_of_lt (show code / 1048576 < 16 by omega)]

theorem isHexDigit_digitChar {d : Nat} (h : d < 16) : IsHexDigit (Nat.digitChar d) d := by
  have hall : ∀ d < 16, IsHexDigit (Nat.digitChar d) d := by decide
  exact hall d h

/-- The digits of a code spell its three bytes. -/
theorem spells_sixDigits (h : code < 16777216) :
    Spells (sixDigits code) [code / 65536, code / 256 % 256, code % 256] := by
  have hdigit (k : Nat) : IsHexDigit (Nat.digitChar (code / 16 ^ k % 16)) (code / 16 ^ k % 16) :=
    isHexDigit_digitChar (Nat.mod_lt _ (by decide))
  have hbytes := Spells.six (hdigit 5) (hdigit 4) (hdigit 3) (hdigit 2) (hdigit 1) (hdigit 0)
  have hred : 16 * (code / 16 ^ 5 % 16) + code / 16 ^ 4 % 16 = code / 65536 := by omega
  have hgreen : 16 * (code / 16 ^ 3 % 16) + code / 16 ^ 2 % 16 = code / 256 % 256 := by omega
  have hblue : 16 * (code / 16 ^ 1 % 16) + code / 16 ^ 0 % 16 = code % 256 := by omega
  rwa [hred, hgreen, hblue] at hbytes

/-! ## Marked texts -/

/-- The marks in front of the digits of a colour. -/
def marks : List String :=
  ["#", "0x"]

variable {mark : String}

theorem notBlank_of_mem_mark {c : Char} (hmark : mark ∈ marks) (hc : c ∈ mark.toList) :
    isBlank c = false := by
  have hall : marks.all (fun mark => mark.toList.all (!isBlank ·)) = true := by decide
  simpa using List.all_eq_true.1 (List.all_eq_true.1 hall mark hmark) c hc

/-- In every mark there is a character of ASCII that is no letter. -/
theorem exists_sign_of_mark (hmark : mark ∈ marks) :
    ∃ c ∈ mark.toList, c.toNat < 128 ∧ c.toLower.isAlpha = false := by
  have hall : marks.all (fun mark => mark.toList.any fun c =>
      decide (c.toNat < 128) && !c.toLower.isAlpha) = true := by decide
  simpa using List.all_eq_true.1 hall mark hmark

/-- No character of a marked text is a blank. -/
theorem trim_marked (hmark : mark ∈ marks) (code : Nat) :
    trim (mark ++ String.ofList (sixDigits code)).toList = mark.toList ++ sixDigits code := by
  have hdigits : ∀ d < 16, isBlank (Nat.digitChar d) = false := by decide
  rw [String.toList_append, String.toList_ofList]
  refine trimBy_eq_self fun c hc => ?_
  obtain hc | hc := List.mem_append.1 hc
  · exact notBlank_of_mem_mark hmark hc
  · obtain ⟨k, -, rfl⟩ := List.mem_map.1 hc
    exact hdigits _ (Nat.mod_lt _ (by decide))

theorem dropMark_marked (hmark : mark ∈ marks) (cs : List Char) :
    dropMark (mark.toList ++ cs) = cs := by
  simp only [marks, List.mem_cons, List.not_mem_nil, or_false] at hmark
  obtain rfl | rfl := hmark <;> rfl

theorem readQuantity?_marked (hmark : mark ∈ marks) (code : Nat) :
    readQuantity? (mark ++ String.ofList (sixDigits code)).toList = none := by
  obtain ⟨c, hc, -⟩ := exists_sign_of_mark hmark
  refine readQuantity?_of_mark ?_
  rw [trim_marked hmark, dropMark_marked hmark, ne_eq, List.self_eq_append_left]
  exact List.ne_nil_of_mem hc

/-- The digits of a code behind a mark are the text of a colour with that number. -/
theorem ofText_marked (hmark : mark ∈ marks) (h : code < 16777216) :
    ofText (mark ++ String.ofList (sixDigits code)) = .ok (ofCode code) := by
  have htrim := trim_marked hmark code
  have hnone : named.lookup (smallText (trimText (mark ++ String.ofList (sixDigits code)))) = none := by
    obtain ⟨c, hc, hascii, hletter⟩ := exists_sign_of_mark hmark
    refine lookup_eq_none hascii hletter ?_
    rw [htrim]
    exact List.mem_append_left _ hc
  have hread := (spells_sixDigits h).reads
  rw [ofText, hnone]
  dsimp only
  rw [ofHex_eq_ok_iff, htrim, dropMark_marked hmark]
  refine ⟨_, hread, ?_⟩
  rw [ofCode_eq]
  have hcode : ((code : Int) % 16777216).toNat = code := by omega
  rw [hcode]
  rfl

end Colour

/-! ## Colours as objects -/

namespace Act

variable {n p code : Nat} {w : World} {channels : List Float}

/-- The result is a new colour with these channels. -/
def MakesColour (w : World) (channels : List Float) (v : Value) (w' : World) : Prop :=
  w.Extends w' ∧ ∃ q, v = .object q ∧ w'.IsColour q channels

theorem gives_callColour {v : Value} {d : Datum} (hw : w.HasLibrary)
    (hseen : ∀ w : World, w.see World.depthLimit v = d) (hd : Colour.make [d] = .ok channels) :
    Gives ((Calls.ofDepth (n + 3)).call (.classRef (.library .color)) [v] []) w
      (MakesColour w channels) := by
  have hlist (w : World) : [v].map (w.see World.depthLimit) = [d] := by
    rw [List.map_singleton, hseen w]
  exact gives_newColour hw (List.cons_ne_nil v []) hlist hd

/-- The number and the digits of a colour are read off its channels. -/
theorem runs_number (hw : w.HasLibrary) (hp : w.IsColour p channels)
    (hcode : Datum.colourCode? channels = some code) :
    Runs ((Calls.ofDepth (n + 2)).send (.object p) "get_hex" []) w (.int code) w ∧
      Runs ((Calls.ofDepth (n + 2)).send (.object p) "get_hex_string" []) w
        (.text (Datum.colourDigits code)) w := by
  obtain ⟨q, hentity, hcells⟩ := hp
  let i : Invocation := ⟨.ofDepth (n + 1), .object p, ⟨[], [], none, [], none⟩, fun _ => pure ()⟩
  have hchannels : Runs (ColourOperation.channels i) w channels w :=
    (runs_rgb hw hentity).bind ((runs_arrayOf? hcells).bind (runs_pure channels w))
  have hnumber : Runs (ColourOperation.number i) w code w := by
    refine hchannels.bind ?_
    rw [hcode]
    exact runs_pure code w
  have hsend {name : String} (op : ColourOperation) {returns : Option Annotation} {v : Value}
      (hmember : LibraryClass.color.member? name =
        some (.library .color, .routine ⟨[], returns, .operation (.colour op), none⟩))
      (hname : (w.entity p).attributes.lookup name = none) (hop : Runs (op.run i) w v w) :
      Runs ((Calls.ofDepth (n + 2)).send (.object p) name []) w v w := by
    obtain ⟨_, _, hrun, rfl, rfl⟩ : Gives ((Calls.ofDepth (n + 2)).send (.object p) name []) w
        fun v' w' => v' = v ∧ w' = w :=
      gives_send (l := .color) i.args hw (by rw [hentity]; rfl) hname hmember (fun _ => rfl)
        (hop.gives ⟨rfl, rfl⟩)
    exact hrun
  constructor
  · exact hsend .code rfl (by rw [hentity]; rfl) (hnumber.bind (runs_pure (Value.int code) w))
  · exact hsend .digits rfl (by rw [hentity]; rfl) (hnumber.bind (runs_pure (Value.text _) w))

/-- A text that is no number is handed to the constructor of colours. -/
theorem gives_buildColour {s : String} (table : Value) (hw : w.HasValueTypes)
    (hread : readQuantity? s.toList = none) (hs : Colour.ofText s = .ok channels) :
    Gives (Conversion.buildValue (Conversion.objectSurroundings (Calls.ofDepth (n + 3)) table)
      (.object ValueKind.color.place) (.text s)) w (MakesColour w channels) := by
  have haccepts : Runs ((Conversion.objectSurroundings (Calls.ofDepth (n + 3)) table).accepts
      (.object ValueKind.color.place) (.text s)) w false w := by
    refine (runs_constructorMember hw .color (by decide) rfl).bind ?_
    exact runs_pure false w
  have hcomponents := Conversion.components_of_ofText hs
  rw [hread] at hcomponents
  refine Runs.bind_gives haccepts (Runs.bind_gives (runs_see (.text s) w) ?_)
  refine Runs.bind_gives (runs_layout hw .color) ?_
  simp only [see_text, hcomponents]
  refine Runs.bind_gives (a := .text (trimText s)) (runs_pure _ w) ?_
  refine Runs.bind_gives (runs_constructorMember hw .color (by decide) rfl) ?_
  refine gives_callColour hw.library (fun w => see_text _ _) ?_
  rw [Colour.make_text]
  exact Colour.ofText_trimText hs

/-- The number of the colour of an integer is what is left of the integer modulo `2 ^ 24`, and its text
are the six digits of that. Behind either mark, the text makes a colour with the same number, and it
is converted to one. -/
theorem gives_colour_of_int {w : World} (hw : w.HasValueTypes) (n : Int) :
    let text := String.ofList (Colour.sixDigits (n % 2 ^ 24).toNat)
    Gives (Calls.usual.call (.classRef (.library .color)) [.int n] []) w (fun colour w₁ =>
      Runs (Calls.usual.send colour "get_hex" []) w₁ (.int (n % 2 ^ 24)) w₁ ∧
      Runs (Calls.usual.send colour "get_hex_string" []) w₁ (.text text) w₁) ∧
    (∀ mark ∈ Colour.marks,
      Gives (Calls.usual.call (.classRef (.library .color)) [.text (mark ++ text)] []) w
        fun colour w₁ => Runs (Calls.usual.send colour "get_hex" []) w₁ (.int (n % 2 ^ 24)) w₁) ∧
    Gives (Calls.usual.send (.object Place.converter) "convert"
      [.text ("#" ++ text), .type (TypeExpr.ofText false "Color")]) w fun colour w₁ =>
        Runs (Calls.usual.send colour "get_hex" []) w₁ (.int (n % 2 ^ 24)) w₁ := by
  intro text
  have hcode : (n % 2 ^ 24).toNat < 16777216 := by omega
  have hint : (n % 2 ^ 24 : Int) = ((n % 2 ^ 24).toNat : Int) := by omega
  have hdigits : Datum.colourDigits (n % 2 ^ 24).toNat = text := by
    rw [Datum.colourDigits, Colour.hexDigits_six hcode]
  -- Of an integer that is such a number already, the same number is left.
  have hleft : Datum.colourCode? (Colour.ofCode (n % 2 ^ 24).toNat) = some (n % 2 ^ 24).toNat := by
    have hsame : (((n % 2 ^ 24).toNat : Int) % 16777216).toNat = (n % 2 ^ 24).toNat := by omega
    rw [Colour.colourCode?_ofCode, hsame]
  have hnumber {colour : Value} {w₁ : World}
      (hmade : MakesColour w (Colour.ofCode (n % 2 ^ 24).toNat) colour w₁) :
      Runs (Calls.usual.send colour "get_hex" []) w₁ (.int (n % 2 ^ 24)) w₁ := by
    obtain ⟨hw₁, p, rfl, hp⟩ := hmade
    rw [hint]
    exact (runs_number (n := 998) (hw.library.extends hw₁) hp hleft).1
  refine ⟨?_, fun mark hmark => ?_, ?_⟩
  · have hnew := gives_callColour (n := 997) hw.library (v := .int n) (fun w => see_int n _) rfl
    refine hnew.mono ?_
    rintro _ w₁ ⟨hw₁, p, rfl, hp⟩
    have hread := runs_number (n := 998) (hw.library.extends hw₁) hp (Colour.colourCode?_ofCode n)
    rw [hint, ← hdigits]
    exact hread
  · refine (gives_callColour (n := 997) hw.library (fun w => see_text _ _) ?_).mono fun _ _ => hnumber
    rw [Colour.make_text]
    exact Colour.ofText_marked hmark hcode
  · have htype : TypeExpr.ofText false "Color" = .scalar ValueKind.color.name :=
      ValueKind.ofText_name .color
    have hmark : "#" ∈ Colour.marks := by decide
    have hread : readQuantity? ("#" ++ text).toList = none := Colour.readQuantity?_marked hmark _
    have hbuild := gives_buildColour (n := 996) (.object Place.constructors) hw hread
      (Colour.ofText_marked hmark hcode)
    rw [htype]
    exact Gives.mono (gives_convert hw (by rw [see_text]; exact nofun) hbuild) fun _ _ => hnumber

/-- Five zeros are written in front of the last digit of a negative integer. -/
theorem gives_colour_of_negative_int :
    let w := World.start []
    Gives (Calls.usual.call (.classRef (.library .color)) [.int (-16777205)] []) w (fun colour w₁ =>
      Runs (Calls.usual.send colour "get_hex" []) w₁ (.int 11) w₁ ∧
      Runs (Calls.usual.send colour "get_hex_string" []) w₁ (.text "00000b") w₁) ∧
    (∀ mark ∈ Colour.marks,
      Gives (Calls.usual.call (.classRef (.library .color)) [.text (mark ++ "00000b")] []) w
        fun colour w₁ => Runs (Calls.usual.send colour "get_hex" []) w₁ (.int 11) w₁) ∧
    Gives (Calls.usual.send (.object Place.converter) "convert"
      [.text "#00000b", .type (TypeExpr.ofText false "Color")]) w fun colour w₁ =>
        Runs (Calls.usual.send colour "get_hex" []) w₁ (.int 11) w₁ := by
  have htext : String.ofList (Colour.sixDigits (-16777205 % 2 ^ 24 : Int).toNat) = "00000b" := by
    decide
  have hcode : (-16777205 % 2 ^ 24 : Int) = 11 := by decide
  have hmarked : "#" ++ "00000b" = "#00000b" := by decide
  have hall := gives_colour_of_int (World.hasValueTypes_start []) (-16777205)
  rw [htext, hcode] at hall
  dsimp only at hall
  rwa [hmarked] at hall

end Act

end SceneBridge
