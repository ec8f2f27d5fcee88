import EasyNav.DelimitedText
import Mathlib.Data.Bool.AllAny
import Mathlib.Data.List.AList
import Mathlib.Data.Fintype.Option
import Mathlib.Data.List.Sort

namespace EasyNav.ConfigurationDump

open EasyNav.DelimitedText

abbrev Text := List UInt8

def byte (c : Char) : UInt8 := UInt8.ofNat c.toNat

def bytes (text : String) : Text := text.toList.map byte

abbrev Name (excluded : String) := { text : Text // ∀ c ∈ text, c ∉ bytes excluded }

def name {excluded : String} (text : String)
    (h : (bytes text).all (fun c => decide (c ∉ bytes excluded)) = true) : Name excluded :=
  ⟨bytes text, List.all_iff_forall_prop.mp h⟩

abbrev NodeName := Name "/"

abbrev ParameterName := Name " ()=\n"

inductive ParameterType where
  | notSet
  | bool
  | integer
  | double
  | string
  | byteArray
  | boolArray
  | integerArray
  | doubleArray
  | stringArray
  deriving DecidableEq

instance : Fintype ParameterType where
  elems := {.notSet, .bool, .integer, .double, .string, .byteArray, .boolArray, .integerArray,
    .doubleArray, .stringArray}
  complete type := by cases type <;> decide

inductive ParameterValue (D : Type) where
  | notSet
  | bool (b : Bool)
  | integer (i : Int)
  | double (d : D)
  | string (text : Text)
  | byteArray (values : List UInt8)
  | boolArray (values : List Bool)
  | integerArray (values : List Int)
  | doubleArray (values : List D)
  | stringArray (values : List Text)
  deriving DecidableEq

def ParameterValue.type {D : Type} : ParameterValue D → ParameterType
  | .notSet => .notSet
  | .bool _ => .bool
  | .integer _ => .integer
  | .double _ => .double
  | .string _ => .string
  | .byteArray _ => .byteArray
  | .boolArray _ => .boolArray
  | .integerArray _ => .integerArray
  | .doubleArray _ => .doubleArray
  | .stringArray _ => .stringArray

/-- The declared parameters of a node; a value may be missing. -/
abbrev Parameters (D : Type) := AList fun _ : ParameterName => Option (ParameterValue D)

abbrev Nodes (D : Type) := AList fun _ : NodeName => Parameters D

/-- What the configuration holds for a parameter of a node. -/
def entry {D : Type} (nodes : Nodes D) (node : NodeName) (name : ParameterName) :
    Option (Option (ParameterValue D)) :=
  (nodes.lookup node).bind fun parameters => parameters.lookup name

def hexDigit (n : Nat) : UInt8 := if n < 10 then UInt8.ofNat (48 + n) else UInt8.ofNat (87 + n)

def quoteByte (c : UInt8) : Text :=
  if c = byte '"' then bytes "\\\""
  else if c = byte '\\' then bytes "\\\\"
  else if c = byte '\n' then bytes "\\n"
  else if c = byte '\r' then bytes "\\r"
  else if c = byte '\t' then bytes "\\t"
  else if c < 0x20 ∨ c = 0x7f then
    bytes "\\x" ++ [hexDigit (c.toNat / 16), hexDigit (c.toNat % 16)]
  else [c]

def quote (text : Text) : Text := [byte '"'] ++ closed quoteByte (byte '"') text

def list {α : Type} (format : α → Text) (values : List α) : Text :=
  bytes "[" ++ separated (bytes ", ") format (byte ']') values

def boolean (b : Bool) : Text := if b then bytes "true" else bytes "false"

def integer : Int → Text
  | .ofNat n => (Nat.toDigits 10 n).map byte
  | .negSucc n => byte '-' :: (Nat.toDigits 10 (n + 1)).map byte

def typeName : ParameterType → String
  | .bool => "bool"
  | .integer => "integer"
  | .double => "double"
  | .string => "string"
  | .byteArray => "byte_array"
  | .boolArray => "bool_array"
  | .integerArray => "integer_array"
  | .doubleArray => "double_array"
  | .stringArray => "string_array"
  | .notSet => "not_set"

section Dump

variable {D : Type} (toChars : D → Text)

def valueOf : ParameterValue D → Text
  | .bool b => boolean b
  | .integer i => integer i
  | .double d => toChars d
  | .string text => quote text
  | .byteArray values => list (fun c : UInt8 => integer c.toNat) values
  | .boolArray values => list boolean values
  | .integerArray values => list integer values
  | .doubleArray values => list toChars values
  | .stringArray values => list quote values
  | .notSet => []

def typedValue : Option (ParameterValue D) → Text
  | none => bytes "uninitialized)\n"
  | some parameter =>
      bytes (typeName parameter.type) ++ bytes ") = " ++ valueOf toChars parameter ++ bytes "\n"

def inOrder {excluded : String} {V : Type} (map : AList fun _ : Name excluded => V) :
    List (Name excluded × V) :=
  (map.keys.insertionSort fun a b => a.1 ≤ b.1).filterMap fun name =>
    (map.lookup name).map fun value => (name, value)

def configurationDump (nodes : Nodes D) : Text :=
  (inOrder nodes).flatMap fun (name, node) =>
    (inOrder node).flatMap fun (parameterName, parameter) =>
      name.1 ++ bytes "/" ++ parameterName.1 ++ bytes " (" ++ typedValue toChars parameter

end Dump

/-- A text may end where an item of an array or a line does. -/
def Stop (c : UInt8) : Prop := c ∈ bytes ",]\n"

instance : DecidablePred Stop := fun c => inferInstanceAs (Decidable (c ∈ bytes ",]\n"))

/-- What `std::to_chars` promises of doubles: distinct texts, none of them empty. -/
structure Exact {D : Type} (toChars : D → Text) : Prop where
  injective : Function.Injective toChars
  nonempty : ∀ d, toChars d ≠ []
  clean : ∀ d, ∀ c ∈ toChars d, c ∉ bytes ",[]\n"

/-- The texts can be items of an array. -/
structure IsItem {α : Type} (format : α → Text) : Prop where
  delimited : DelimitedBy Stop format
  start : ∀ a, StartsWith (fun c => c ≠ byte ']') (format a)

section Items

variable {α : Type} {format : α → Text}

theorem IsItem.of_injective (hinj : Function.Injective format) (hne : ∀ a, format a ≠ [])
    (hclean : ∀ a, ∀ c ∈ format a, ¬ Stop c) : IsItem format := by
  refine ⟨.of_injective hinj hclean, ?_⟩
  intro a
  obtain ⟨c, rest, hcons⟩ := List.exists_cons_of_ne_nil (hne a)
  refine ⟨c, rest, hcons, ?_⟩
  rintro rfl
  have hmem : byte ']' ∈ format a := by
    rw [hcons]
    exact List.mem_cons_self
  exact hclean a _ hmem (by decide)

theorem IsItem.comp {β : Type} (h : IsItem format) {g : β → α}
    (hg : Function.Injective g) : IsItem fun b => format (g b) := by
  constructor
  · intro a b r s hr hs heq
    obtain ⟨hab, hrest⟩ := h.delimited (g a) (g b) r s hr hs heq
    exact ⟨hg hab, hrest⟩
  · exact fun b => h.start (g b)

theorem boolean_isItem : IsItem boolean := by
  apply IsItem.of_injective
  · have hne : bytes "true" ≠ bytes "false" := by decide
    intro a b heq
    cases a with
    | false =>
        cases b with
        | false => rfl
        | true => exact absurd heq.symm hne
    | true =>
        cases b with
        | false => exact absurd heq hne
        | true => rfl
  · decide
  · intro b
    cases b with
    | false => exact List.all_iff_forall_prop.mp (by decide)
    | true => exact List.all_iff_forall_prop.mp (by decide)

theorem toNat_of_isDigit {c : Char} (h : c.isDigit = true) : 48 ≤ c.toNat ∧ c.toNat ≤ 57 := by
  rw [Char.isDigit, Bool.and_eq_true, decide_eq_true_eq, decide_eq_true_eq] at h
  exact ⟨h.1, h.2⟩

theorem byte_toNat {c : Char} (h : c.toNat < 256) : (byte c).toNat = c.toNat :=
  Nat.mod_eq_of_lt h

theorem decimal_injective {m n : Nat}
    (h : (Nat.toDigits 10 m).map byte = (Nat.toDigits 10 n).map byte) : m = n := by
  have hread : ∀ n : Nat, ((Nat.toDigits 10 n).map byte).map (fun b => Char.ofNat b.toNat) =
      Nat.toDigits 10 n := by
    intro n
    rw [List.map_map]
    nth_rewrite 2 [← List.map_id (Nat.toDigits 10 n)]
    apply List.map_congr_left
    intro c hc
    have hdigit := toNat_of_isDigit (Nat.isDigit_of_mem_toDigits (by decide) (by decide) hc)
    rw [Function.comp_apply, byte_toNat (by omega), Char.ofNat_toNat]
    rfl
  rw [← Nat.ofDigitChars_ten_toDigits (n := m), ← Nat.ofDigitChars_ten_toDigits (n := n),
    ← hread m, ← hread n, h]

theorem mem_decimal {n : Nat} {c : UInt8} (h : c ∈ (Nat.toDigits 10 n).map byte) :
    48 ≤ c.toNat ∧ c.toNat ≤ 57 := by
  obtain ⟨d, hd, rfl⟩ := List.mem_map.mp h
  have hdigit := toNat_of_isDigit (Nat.isDigit_of_mem_toDigits (by decide) (by decide) hd)
  rw [byte_toNat (by omega)]
  exact hdigit

theorem integer_injective : Function.Injective integer := by
  have hsign : ∀ m n : Nat, integer (.ofNat m) ≠ integer (.negSucc n) := by
    intro m n heq
    have hmem : byte '-' ∈ integer (.ofNat m) := by
      rw [heq]
      exact List.mem_cons_self
    have hdigit := (mem_decimal hmem).1
    exact absurd hdigit (by decide)
  intro i j heq
  cases i with
  | ofNat m =>
      cases j with
      | ofNat n => rw [decimal_injective heq]
      | negSucc n => exact absurd heq (hsign m n)
  | negSucc m =>
      cases j with
      | ofNat n => exact absurd heq.symm (hsign n m)
      | negSucc n =>
          have hsucc := decimal_injective (List.cons.inj heq).2
          rw [Nat.succ.inj hsucc]

theorem mem_integer {i : Int} {c : UInt8} (h : c ∈ integer i) :
    c.toNat = 45 ∨ 48 ≤ c.toNat ∧ c.toNat ≤ 57 := by
  cases i with
  | ofNat n => exact Or.inr (mem_decimal h)
  | negSucc n =>
      rcases List.mem_cons.mp h with rfl | h
      · exact Or.inl rfl
      · exact Or.inr (mem_decimal h)

theorem integer_exact : Exact integer := by
  constructor
  · exact integer_injective
  · intro i
    cases i with
    | ofNat n => exact List.map_eq_nil_iff.not.mpr Nat.toDigits_ne_nil
    | negSucc n => exact List.cons_ne_nil _ _
  · intro i c hc hstop
    have hothers : ∀ c ∈ bytes ",[]\n", c.toNat < 45 ∨ 57 < c.toNat :=
      List.all_iff_forall_prop.mp (by decide)
    have hdigit := mem_integer hc
    have hother := hothers c hstop
    omega

theorem Exact.isItem {D : Type} {toChars : D → Text} (h : Exact toChars) : IsItem toChars := by
  apply IsItem.of_injective h.injective h.nonempty
  intro d c hc hstop
  have hsubset : ∀ c ∈ bytes ",]\n", c ∈ bytes ",[]\n" :=
    List.all_iff_forall_prop.mp (by decide)
  exact h.clean d c hc (hsubset c hstop)

theorem integer_isItem : IsItem integer := integer_exact.isItem

theorem list_selfDelimiting (h : IsItem format) : SelfDelimiting (list format) := by
  apply SelfDelimiting.after
  refine h.delimited.separated (by decide) ?_ h.start
  exact ⟨byte ',', [byte ' '], rfl, by decide, by decide⟩

end Items

section Quoting

def hexValue (c : UInt8) : Nat := if c.toNat < 87 then c.toNat - 48 else c.toNat - 87

theorem hexValue_hexDigit {n : Nat} (h : n < 16) : hexValue (hexDigit n) = n := by
  have hall : ∀ n < 16, hexValue (hexDigit n) = n := by decide
  exact hall n h

/-- The inverse of `quoteByte`: what it makes of a byte can be read back. -/
def readQuotedByte : Text → Option (UInt8 × Text)
  | [] => none
  | c :: rest =>
      if c = byte '\\' then
        match rest with
        | [] => none
        | e :: rest =>
            if e = byte 'n' then some (byte '\n', rest)
            else if e = byte 'r' then some (byte '\r', rest)
            else if e = byte 't' then some (byte '\t', rest)
            else if e = byte 'x' then
              match rest with
              | high :: low :: rest =>
                  some (UInt8.ofNat (16 * hexValue high + hexValue low), rest)
              | _ => none
            else some (e, rest)
      else some (c, rest)

theorem quoteByte_cases (c : UInt8) :
    (∃ escape, quoteByte c = byte '\\' :: escape ∧
        ∀ rest, readQuotedByte (byte '\\' :: escape ++ rest) = some (c, rest)) ∨
      quoteByte c = [c] ∧ c ≠ byte '"' ∧ c ≠ byte '\\' := by
  rw [quoteByte]
  split
  · rename_i hc
    exact .inl ⟨bytes "\"", rfl, fun _ => by rw [hc]; rfl⟩
  · rename_i hquote
    split
    · rename_i hc
      exact .inl ⟨bytes "\\", rfl, fun _ => by rw [hc]; rfl⟩
    · rename_i hbackslash
      split
      · rename_i hc
        exact .inl ⟨bytes "n", rfl, fun _ => by rw [hc]; rfl⟩
      · split
        · rename_i hc
          exact .inl ⟨bytes "r", rfl, fun _ => by rw [hc]; rfl⟩
        · split
          · rename_i hc
            exact .inl ⟨bytes "t", rfl, fun _ => by rw [hc]; rfl⟩
          · split
            · refine .inl ⟨bytes "x" ++ [hexDigit (c.toNat / 16), hexDigit (c.toNat % 16)], rfl,
                fun rest => ?_⟩
              have hlt : c.toNat < 256 := c.toNat_lt
              change some (UInt8.ofNat (16 * hexValue (hexDigit (c.toNat / 16)) +
                hexValue (hexDigit (c.toNat % 16))), rest) = some (c, rest)
              rw [hexValue_hexDigit (by omega), hexValue_hexDigit (by omega), Nat.div_add_mod,
                UInt8.ofNat_toNat]
            · exact .inr ⟨rfl, hquote, hbackslash⟩

theorem readQuotedByte_quoteByte (c : UInt8) (rest : Text) :
    readQuotedByte (quoteByte c ++ rest) = some (c, rest) := by
  rcases quoteByte_cases c with ⟨escape, hquoted, hread⟩ | ⟨hself, -, hbackslash⟩
  · rw [hquoted]
    exact hread rest
  · rw [hself]
    exact if_neg hbackslash

theorem quoteByte_startsWith (c : UInt8) :
    StartsWith (fun e => True ∧ e ≠ byte '"') (quoteByte c) := by
  rcases quoteByte_cases c with ⟨escape, hquoted, -⟩ | ⟨hself, hquote, -⟩
  · exact ⟨byte '\\', escape, hquoted, trivial, by decide⟩
  · exact ⟨c, [], hself, trivial, hquote⟩

theorem quote_selfDelimiting : SelfDelimiting quote := by
  have hbyte : SelfDelimiting quoteByte := .of_read readQuotedByte_quoteByte
  have hdelimited : DelimitedBy (fun _ => True) quoteByte := hbyte.delimitedBy
  exact (hdelimited.closed trivial quoteByte_startsWith).after [byte '"']

theorem quote_isItem : IsItem quote :=
  ⟨quote_selfDelimiting.delimitedBy, fun _ => ⟨byte '"', _, rfl, by decide⟩⟩

end Quoting

section Lines

variable {D : Type} {toChars : D → Text}

theorem newline_startsWith : StartsWith Stop (bytes "\n") := ⟨byte '\n', [], rfl, by decide⟩

theorem valueOf_line (h : Exact toChars) (a b : ParameterValue D) (r s : Text)
    (htype : a.type = b.type)
    (heq : valueOf toChars a ++ bytes "\n" ++ r = valueOf toChars b ++ bytes "\n" ++ s) :
    a = b ∧ r = s := by
  have hline : ∀ {α : Type} {format : α → Text} (make : α → ParameterValue D),
      DelimitedBy Stop format → ∀ x y,
        format x ++ bytes "\n" ++ r = format y ++ bytes "\n" ++ s → make x = make y ∧ r = s := by
    intro α format make hformat x y hxy
    obtain ⟨rfl, hrest⟩ := hformat.terminated newline_startsWith x y r s hxy
    exact ⟨rfl, hrest⟩
  have hbytes : IsItem fun c : UInt8 => integer c.toNat := by
    apply integer_isItem.comp
    intro c d hcd
    exact UInt8.toNat_inj.mp (Int.ofNat.inj hcd)
  cases a with
  | notSet =>
      cases b with
      | notSet => exact ⟨rfl, List.append_cancel_left heq⟩
      | _ => contradiction
  | bool x =>
      cases b with
      | bool y => exact hline .bool boolean_isItem.delimited x y heq
      | _ => contradiction
  | integer x =>
      cases b with
      | integer y => exact hline .integer integer_isItem.delimited x y heq
      | _ => contradiction
  | double x =>
      cases b with
      | double y => exact hline .double h.isItem.delimited x y heq
      | _ => contradiction
  | string x =>
      cases b with
      | string y => exact hline .string quote_selfDelimiting.delimitedBy x y heq
      | _ => contradiction
  | byteArray x =>
      cases b with
      | byteArray y =>
          exact hline .byteArray (list_selfDelimiting hbytes).delimitedBy x y heq
      | _ => contradiction
  | boolArray x =>
      cases b with
      | boolArray y =>
          exact hline .boolArray (list_selfDelimiting boolean_isItem).delimitedBy x y heq
      | _ => contradiction
  | integerArray x =>
      cases b with
      | integerArray y =>
          exact hline .integerArray (list_selfDelimiting integer_isItem).delimitedBy x y heq
      | _ => contradiction
  | doubleArray x =>
      cases b with
      | doubleArray y =>
          exact hline .doubleArray (list_selfDelimiting h.isItem).delimitedBy x y heq
      | _ => contradiction
  | stringArray x =>
      cases b with
      | stringArray y =>
          exact hline .stringArray (list_selfDelimiting quote_isItem).delimitedBy x y heq
      | _ => contradiction

/-- What stands between the parentheses. -/
def typeTag : Option ParameterType → Text
  | none => bytes "uninitialized"
  | some type => bytes (typeName type)

theorem typeTag_injective : Function.Injective typeTag := by
  have hall : ∀ a b, typeTag a = typeTag b → a = b := by decide
  exact fun a b => hall a b

def valuePart (toChars : D → Text) : Option (ParameterValue D) → Text
  | none => bytes "\n"
  | some parameter => bytes " = " ++ (valueOf toChars parameter ++ bytes "\n")

theorem typedValue_eq (parameter : Option (ParameterValue D)) :
    typedValue toChars parameter =
      typeTag (parameter.map ParameterValue.type) ++ bytes ")" ++ valuePart toChars parameter := by
  cases parameter with
  | none => rfl
  | some parameter =>
      rw [typedValue, Option.map_some, typeTag, valuePart]
      simp only [List.append_assoc]
      rfl

theorem typedValue_selfDelimiting (h : Exact toChars) : SelfDelimiting (typedValue toChars) := by
  have hclean : ∀ kind, (typeTag kind).all (fun c => decide (c ≠ byte ')')) = true := by decide
  have htag : DelimitedBy (fun c => c = byte ')') typeTag :=
    .of_injective typeTag_injective fun kind => List.all_iff_forall_prop.mp (hclean kind)
  have hbody : ∀ (a b : Option (ParameterValue D)) (r s : Text),
      a.map ParameterValue.type = b.map ParameterValue.type →
        valuePart toChars a ++ r = valuePart toChars b ++ s → a = b ∧ r = s := by
    intro a b r s htype heq
    cases a with
    | none =>
        cases b with
        | none => exact ⟨rfl, List.append_cancel_left heq⟩
        | some b => contradiction
    | some a =>
        cases b with
        | none => contradiction
        | some b =>
            have hvalue : valueOf toChars a ++ bytes "\n" ++ r =
                valueOf toChars b ++ bytes "\n" ++ s := by
              simpa only [valuePart, List.append_assoc, List.append_cancel_left_eq] using heq
            obtain ⟨rfl, hrest⟩ := valueOf_line h a b r s (Option.some.inj htype) hvalue
            exact ⟨rfl, hrest⟩
  have hline : SelfDelimiting fun parameter : Option (ParameterValue D) =>
      typeTag (parameter.map ParameterValue.type) ++ bytes ")" ++ valuePart toChars parameter :=
    (htag.terminated ⟨byte ')', [], rfl, rfl⟩).tagged hbody
  intro a b r s heq
  rw [typedValue_eq, typedValue_eq] at heq
  exact hline a b r s heq

theorem name_selfDelimiting {excluded : String} {ending : Text}
    (hending : StartsWith (fun c => c ∈ bytes excluded) ending) :
    SelfDelimiting fun name : Name excluded => name.1 ++ ending := by
  have hname : DelimitedBy (fun c => c ∈ bytes excluded) fun name : Name excluded => name.1 :=
    .of_injective Subtype.val_injective fun name => name.2
  exact hname.terminated hending

def line (toChars : D → Text)
    (member : NodeName × ParameterName × Option (ParameterValue D)) : Text :=
  (member.1.1 ++ bytes "/") ++ ((member.2.1.1 ++ bytes " (") ++ typedValue toChars member.2.2)

theorem line_selfDelimiting (h : Exact toChars) : SelfDelimiting (line toChars) := by
  have hnode : SelfDelimiting fun name : NodeName => name.1 ++ bytes "/" :=
    name_selfDelimiting ⟨byte '/', [], rfl, by decide⟩
  have hname : SelfDelimiting fun name : ParameterName => name.1 ++ bytes " (" :=
    name_selfDelimiting ⟨byte ' ', [byte '('], rfl, by decide⟩
  exact hnode.pair (hname.pair (typedValue_selfDelimiting h))

end Lines

section Configuration

variable {D : Type} {toChars : D → Text}

theorem mem_inOrder {excluded : String} {V : Type}
    {map : AList fun _ : Name excluded => V} {name : Name excluded} {value : V} :
    (name, value) ∈ inOrder map ↔ map.lookup name = some value := by
  simp only [inOrder, List.mem_filterMap, List.mem_insertionSort, Option.map_eq_some_iff,
    Prod.mk.injEq]
  constructor
  · rintro ⟨name', -, value', hlookup, rfl, rfl⟩
    exact hlookup
  · intro hlookup
    refine ⟨name, ?_, value, hlookup, rfl, rfl⟩
    have hmem : (map.lookup name).isSome = true := by
      rw [hlookup]
      rfl
    exact AList.mem_keys.mp (AList.lookup_isSome.mp hmem)

/-- Every parameter of every node, in the order of the dump. -/
def entries (nodes : Nodes D) : List (NodeName × ParameterName × Option (ParameterValue D)) :=
  (inOrder nodes).flatMap fun (name, node) =>
    (inOrder node).map fun (parameterName, parameter) => (name, parameterName, parameter)

theorem mem_entries {nodes : Nodes D} {node : NodeName} {name : ParameterName}
    {parameter : Option (ParameterValue D)} :
    (node, name, parameter) ∈ entries nodes ↔ entry nodes node name = some parameter := by
  rw [entry, Option.bind_eq_some_iff]
  simp only [entries, List.mem_flatMap, List.mem_map, Prod.mk.injEq, Prod.exists]
  constructor
  · rintro ⟨node', parameters, hnode, name', parameter', hname, rfl, rfl, rfl⟩
    exact ⟨parameters, mem_inOrder.mp hnode, mem_inOrder.mp hname⟩
  · rintro ⟨parameters, hnode, hname⟩
    exact ⟨node, parameters, mem_inOrder.mpr hnode, name, parameter, mem_inOrder.mpr hname, rfl,
      rfl, rfl⟩

theorem configurationDump_eq (nodes : Nodes D) :
    configurationDump toChars nodes = (entries nodes).flatMap (line toChars) := by
  simp only [configurationDump, entries, line, List.flatMap_assoc, List.flatMap_map,
    List.append_assoc]

/-- Two configurations with the same dump hold the same parameters, with the same types
and values. -/
theorem configurationDump_injective (h : Exact toChars) {a b : Nodes D}
    (heq : configurationDump toChars a = configurationDump toChars b) (node : NodeName)
    (name : ParameterName) : entry a node name = entry b node name := by
  have hne : ∀ member, line toChars member ≠ [] := by
    intro member hnil
    have hslash := (List.append_eq_nil_iff.mp (List.append_eq_nil_iff.mp hnil).1).2
    exact absurd hslash (by decide)
  have hentries : entries a = entries b := by
    rw [configurationDump_eq, configurationDump_eq] at heq
    exact (line_selfDelimiting h).flatMap_injective hne heq
  apply Option.ext
  intro parameter
  rw [← mem_entries, ← mem_entries, hentries]

end Configuration

def exampleNode : NodeName := name "controller_node" (by decide)

def exampleRate : ParameterName := name "simple.rt_freq" (by decide)

def exampleText : ParameterName := name "simple.plugin" (by decide)

def exampleNodes : Nodes Int :=
  (∅ : Nodes Int).insert exampleNode
    (((∅ : Parameters Int).insert exampleRate (some (.double 30))).insert exampleText
      (some (.stringArray [bytes "a\", \"b", bytes "c]\n"])))

def exampleMore : Nodes Int := exampleNodes.insert (name "maps_manager_node" (by decide)) ∅

theorem configurationDump_injective_empty_node :
    entry exampleNodes exampleNode exampleText = entry exampleMore exampleNode exampleText :=
  configurationDump_injective integer_exact (by decide +kernel) exampleNode exampleText

end EasyNav.ConfigurationDump
