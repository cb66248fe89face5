import TypedTable.Proofs.Guid
import TypedTable.Proofs.Instant
import TypedTable.Proofs.Lexing.Number
import TypedTable.Proofs.Lexing.Word

namespace TypedTable
namespace Lexer

theorem quote_not_mem_digits {text : List Char} (all : text.all Char.isDigit = true) : '\'' ∉ text :=
  fun member => absurd (List.all_eq_true.mp all _ member) (by decide)

theorem quote_not_mem_fixedText (t : Instant) : '\'' ∉ t.fixedText.toList := by
  have padded (width n : Nat) : '\'' ∉ (Numeral.padded width n).toList :=
    quote_not_mem_digits (Numeral.all_isDigit_padded width n)
  have year (y : Int) : '\'' ∉ (Instant.yearText y).toList := by
    unfold Instant.yearText
    split
    · exact padded _ _
    · split <;> simp [padded]
  simp [Instant.fixedText,Instant.dateText,Instant.clockText,year,padded]

theorem quote_not_mem_encode (bytes : List UInt8) : '\'' ∉ Hex.encode bytes := fun written =>
  absurd (Hex.isSome_of_mem_encode written) (by decide)

theorem quote_not_mem_hyphenate {digits : List Char} (plain : '\'' ∉ digits) :
    '\'' ∉ Guid.hyphenate digits := by
  have part (start width : Nat) : '\'' ∉ (digits.drop start).take width :=
    fun member => plain (List.mem_of_mem_drop (List.mem_of_mem_take member))
  have first : '\'' ∉ digits.take 8 := fun member => plain (List.mem_of_mem_take member)
  have last : '\'' ∉ digits.drop 20 := fun member => plain (List.mem_of_mem_drop member)
  simp [Guid.hyphenate,first,part,last]

theorem lexes_boolean (b : Bool) : Lexes (Value.booleanText b).toList [.literal (.boolean b)] := by
  cases b with
  | true => exact lexes_word ⟨'t',['r','u','e'],rfl,rfl,rfl⟩
  | false => exact lexes_word ⟨'f',['a','l','s','e'],rfl,rfl,rfl⟩

theorem lexes_binary (bytes : List UInt8) :
    Lexes (Value.binary bytes).literal.toList [.literal (.binary bytes)] := by
  have read : typed (['X'].map Char.toLower) (Hex.encode bytes) = .ok (.literal (.binary bytes)) := by
    simp [typed,Hex.decode?_encode,required]
  have lexes := lexes_typed ⟨'X',[],rfl,rfl,rfl⟩ (quote_not_mem_encode bytes) read
  simpa [Value.literal] using lexes

theorem lexes_guid (g : Guid) : Lexes (Value.guid g).literal.toList [.literal (.guid g)] := by
  have quoteless : '\'' ∉ g.text.toList := by
    rw [Guid.text,String.toList_ofList]
    exact quote_not_mem_hyphenate (quote_not_mem_encode g.bytes)
  have read : typed (['g','u','i','d'].map Char.toLower) g.text.toList = .ok (.literal (.guid g)) := by
    simp [typed,Guid.ofText?_text,required]
  have lexes := lexes_typed ⟨'g',['u','i','d'],rfl,rfl,rfl⟩ quoteless read
  simpa [Value.literal] using lexes

theorem lexes_dateTime {t t' : Instant} (read : Instant.ofText? t.fixedText = some t') :
    Lexes (Value.dateTime t).literal.toList [.literal (.dateTime t')] := by
  have typed : typed (['d','a','t','e','t','i','m','e'].map Char.toLower) t.fixedText.toList =
      .ok (.literal (.dateTime t')) := by
    simp [typed,read,required]
  have lexes := lexes_typed ⟨'d',['a','t','e','t','i','m','e'],rfl,rfl,rfl⟩
    (quote_not_mem_fixedText t) typed
  simpa [Value.literal] using lexes

theorem lexes_int32 (n : Int32) : Lexes (Value.int32 n).literal.toList [.literal (.int32 n)] := by
  have lexes := lexes_number (wholeSpelling n.toInt) [] fun _ boundary => by
    rw [text_wholeSpelling]
    exact number_int32 n boundary
  rwa [text_wholeSpelling,List.append_nil] at lexes

theorem lexes_int64 (n : Int64) : Lexes (Value.int64 n).literal.toList [.literal (.int64 n)] := by
  have lexes := lexes_number (wholeSpelling n.toInt) ['L'] fun rest _ => by
    rw [text_wholeSpelling]
    exact number_int64 n rest
  rw [text_wholeSpelling] at lexes
  simpa [Value.literal] using lexes

theorem lexes_double {x : Double} (finite : x.isFinite = true) :
    Lexes (Value.double x).literal.toList [.literal (.double x)] := by
  obtain ⟨s,text,_⟩ := Double.Layout.write_spelled finite
  have lexes := lexes_number s [] fun _ boundary => by
    rw [← text]
    exact number_double finite boundary
  rwa [← text,List.append_nil] at lexes

end Lexer

-- Values whose literal says all that there is to say of them.
def Value.IsExact : Value → Prop
  | .double x => x.isFinite = true
  | .dateTime t => t.IsFixed
  | _ => True

namespace Lexer

theorem lexes_literal {v : Value} (exact : v.IsExact) : Lexes v.literal.toList [.literal v] := by
  cases v with
  | string content =>
    have lexes := lexes_string content.toList
    rw [String.ofList_toList] at lexes
    simpa [Value.literal] using lexes
  | int32 n => exact lexes_int32 n
  | int64 n => exact lexes_int64 n
  | double x => exact lexes_double exact
  | boolean b => exact lexes_boolean b
  | binary bytes => exact lexes_binary bytes
  | dateTime t => exact lexes_dateTime (Instant.ofText?_fixedText_exact exact)
  | guid g => exact lexes_guid g

end Lexer
end TypedTable
