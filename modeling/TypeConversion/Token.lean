import TypeConversion.Text.Hex

/-!
# Tokens

A token names a type or a conversion operator of a universe by 32 bits: the high byte is a table,
the low 24 bits are a row of that table.

* `Token.ofParts` packs a table and a row, of which it keeps the low 24 bits;
* `Token.table` and `Token.row` take a token apart, and `Token.ofParts_table_row` puts it back;
* `Token.distinct` keeps the first of the items that share a token.

Two descriptors denote the same type exactly when their tokens are equal.
-/

namespace TypeConversion

-- Powers are those of the core library, also where another library has its own.
attribute [local instance (2000)] instPowNat

/-- The name of a type or of a conversion operator. -/
structure Token where
  value : UInt32
  deriving DecidableEq, Inhabited

namespace Token

/-- The table of declared types. -/
def declaredTable : Nat := 0x02

/-- The table of user conversion operators. -/
def operatorTable : Nat := 0x06

/-- The table of constructed types: optionals, arrays and generic instances. -/
def constructedTable : Nat := 0x1B

/-- The token of a row of a table; the row is reduced to its low 24 bits. -/
def ofParts (table row : Nat) : Token :=
  ⟨UInt32.ofNat (table * 2 ^ (24 : Nat) + row % 2 ^ (24 : Nat))⟩

/-- The table, the high byte. -/
def table (t : Token) : Nat := t.value.toNat / 2 ^ (24 : Nat)

/-- The row, the low 24 bits. -/
def row (t : Token) : Nat := t.value.toNat % 2 ^ (24 : Nat)

/-- The token that names nothing. -/
def isNull (t : Token) : Bool := t.value == 0

/-- Whether the token lies in the table of constructed types. -/
def isConstructed (t : Token) : Bool := t.table == constructedTable

/-- The text of a token in messages: eight hexadecimal digits. -/
def text (t : Token) : String := "0x" ++ Hex.lower 8 t.value.toNat

/-- The text of a token with its parts spelled out. -/
def inspect (t : Token) : String :=
  "Token(" ++ t.text ++ ", table: 0x" ++ Hex.lower 2 t.table ++ ", row: " ++ toString t.row ++ ")"

/-- The items of a list with distinct tokens, the first of those with one token. -/
def distinct {α : Type} (token : α → Token) : List α → List α
  | [] => []
  | x :: xs => x :: (distinct token xs).filter fun y => token y != token x

section Distinct

variable {α : Type} (token : α → Token)

/-- The distinct items are in the order of the list. -/
theorem distinct_sublist (l : List α) : (distinct token l).Sublist l := by
  induction l with
  | nil => exact List.Sublist.slnil
  | cons x l ih => exact (List.filter_sublist.trans ih).cons_cons x

/-- The distinct items have distinct tokens. -/
theorem nodup_map_distinct (l : List α) : ((distinct token l).map token).Nodup := by
  induction l with
  | nil => exact List.nodup_nil
  | cons x l ih =>
    rw [distinct, List.map_cons, List.nodup_cons]
    refine ⟨?_, ih.sublist (List.filter_sublist.map token)⟩
    simp

/-- The token of every item is that of a distinct one. -/
theorem exists_mem_distinct {x : α} {l : List α} (h : x ∈ l) :
    ∃ y ∈ distinct token l, token y = token x := by
  induction l with
  | nil => cases h
  | cons z l ih =>
    by_cases same : token z = token x
    · exact ⟨z, List.mem_cons_self, same⟩
    · rcases List.mem_cons.mp h with rfl | h
      · exact absurd rfl same
      · obtain ⟨y, hy, hyx⟩ := ih h
        refine ⟨y, List.mem_cons_of_mem _ (List.mem_filter.mpr ⟨hy, ?_⟩), hyx⟩
        simpa [hyx] using fun e : token x = token z => same e.symm

end Distinct

theorem table_ofParts {table : Nat} (h : table < 2 ^ (8 : Nat)) (row : Nat) :
    (ofParts table row).table = table := by
  simp only [Token.table, ofParts, UInt32.toNat_ofNat']
  omega

theorem row_ofParts (table row : Nat) :
    (ofParts table row).row = row % 2 ^ (24 : Nat) := by
  simp only [Token.row, ofParts, UInt32.toNat_ofNat']
  omega

/-- A token is the row of its table. -/
theorem ofParts_table_row (t : Token) : ofParts t.table t.row = t := by
  have h : t.table * 2 ^ (24 : Nat) + t.row % 2 ^ (24 : Nat) = t.value.toNat := by
    simp only [Token.table, Token.row]
    omega
  rw [ofParts, h, UInt32.ofNat_toNat]

end Token

end TypeConversion
