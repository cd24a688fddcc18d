import Linewise.Proofs.Lexer.Supply

/-!
# Enumerations — the items of a stream, and nothing behind them

A stream hands out the tokens that are taken one after another, and the error that it meets, if it
meets one.  Behind its last item it stays without items, however often it is asked.  Each token costs
the lexer some of its supply, so there are no more of them than characters in front of the lexer.
-/

namespace Linewise

variable {κ : Type}

namespace TokenStream

variable {lexer after : Lexer κ} {stream : TokenStream κ}

/-! ## 1. One item -/

theorem next_of_ok {found : Option (Token κ)} (hresult : lexer.nextToken.result = .ok found) :
    (ofLexer lexer).next =
      (found.map .ok, ofLexer lexer.nextToken.state, lexer.nextToken.events) := by
  simp [next, ofLexer, hresult]

theorem next_of_error {error : LexError κ} (hresult : lexer.nextToken.result = .error error) :
    (ofLexer lexer).next =
      (some (.error error), ⟨lexer.nextToken.state, true⟩, lexer.nextToken.events) := by
  simp [next, ofLexer, hresult]

/-- A stream that has come to its end stays there. -/
theorem next_of_next_none (hnext : stream.next.1 = none) : stream.next.2.1.next.1 = none := by
  obtain ⟨lexer, failed⟩ := stream
  cases failed with
  | true => rw [next_of_failed, next_of_failed]
  | false =>
    change (ofLexer lexer).next.1 = none at hnext
    change (ofLexer lexer).next.2.1.next.1 = none
    cases Lexer.primed lexer with
    | token t ok lookahead =>
      have htoken := Lexer.nextToken_of_token ok lookahead
      rw [next_of_ok (congrArg Outcome.result htoken)] at hnext
      cases hnext
    | endOfInput ok lookahead =>
      have hend := Lexer.nextToken_of_endOfInput ok lookahead
      rw [next_of_ok (congrArg Outcome.result hend), hend]
      rw [next_of_ok (congrArg Outcome.result (Lexer.nextToken_of_known_end lookahead))]
      rfl
    | failed error result =>
      have herror := Lexer.nextToken_of_error result
      rw [next_of_error (congrArg Outcome.result herror)] at hnext
      cases hnext

/-- One step of an enumeration. -/
theorem all_eq (stream : TokenStream κ) :
    stream.all.1 =
      match stream.next.1 with
      | none => []
      | some item => item :: stream.next.2.1.all.1 := by
  rw [all]
  split
  · next hnext => simp only [hnext]
  · next hnext => simp only [hnext]

/-- The calls hand out the items one by one, and then find nothing more. -/
theorem nextMany_eq (count : Nat) (stream : TokenStream κ) :
    (stream.nextMany count).1 =
      (stream.all.1.take count).map some ++ List.replicate (count - stream.all.1.length) none := by
  induction count generalizing stream with
  | zero => simp [nextMany]
  | succ count ih =>
    have hlater := ih stream.next.2.1
    have hall := all_eq stream
    cases hnext : stream.next.1 with
    | none =>
      have hnone := all_eq stream.next.2.1
      rw [next_of_next_none hnext] at hnone
      rw [hnext] at hall
      simp [nextMany, hnext, hlater, hnone, hall, List.replicate_succ]
    | some item =>
      rw [hnext] at hall
      simp [nextMany, hnext, hlater, hall]

theorem all_of_error {error : LexError κ} (hresult : lexer.nextToken.result = .error error) :
    (ofLexer lexer).all.1 = [.error error] := by
  rw [all_eq, next_of_error hresult, all_eq, next_of_failed]

/-- Tokens that are taken one after another are the first items of the stream. -/
theorem all_append_of_takes {ts : List (Token κ)} (htakes : lexer.Takes ts after) :
    (ofLexer lexer).all.1 = ts.map .ok ++ (ofLexer after).all.1 := by
  induction htakes with
  | nil => rfl
  | cons first _ ih =>
    rw [all_eq, next_of_ok first]
    exact congrArg (List.cons _) ih

end TokenStream

/-! ## 3. All tokens -/

/-- The bytes that the source has still to deliver. -/
def Source.bytes : Source → List UInt8
  | .reading reader => reader.bytes
  | .released => []

theorem Source.bodySize_lines_le (source : Source) :
    bodySize source.lines.flatten ≤ bodySize source.bytes := by
  cases source with
  | reading reader => exact reader.flatten_lines_sublist.countP_le
  | released => exact Nat.le_refl _

/-- Tokens can be taken only so often. -/
theorem Lexer.exists_takes (lexer : Lexer κ) :
    ∃ ts after, lexer.Takes ts after ∧ ∀ t, after.nextToken.result ≠ .ok (some t) := by
  induction hsupply : lexer.supply using Nat.strongRecOn generalizing lexer with
  | _ supply ih =>
    by_cases htoken : ∃ t, lexer.nextToken.result = .ok (some t)
    · obtain ⟨t, ht⟩ := htoken
      have hless := supply_nextToken_lt ht
      obtain ⟨ts, after, htakes, hlast⟩ := ih _ (hsupply ▸ hless) lexer.nextToken.state rfl
      exact ⟨t :: ts, after, .cons ht htakes, hlast⟩
    · exact ⟨[], lexer, .nil lexer, fun t ht => htoken ⟨t, ht⟩⟩

/-- From any state of a lexer, a stream has finitely many items: the tokens that are taken one after
another and, unless they end with the input, one error.  Calls of `next` hand these out, and nothing
behind them, and there are no more tokens than bytes in front of the lexer and a token that it holds.
A match that splits a character is an error here, too. -/
theorem TokenStream.exists_items (lexer : Lexer κ) :
    ∃ (ts : List (Token κ)) (after : Lexer κ) (error? : Option (LexError κ)),
      let items : List (StreamItem κ) := ts.map .ok ++ error?.toList.map .error
      lexer.Takes ts after ∧ after.nextToken.result = error?.elim (.ok none) .error ∧
      (ofLexer lexer).all.1 = items ∧
      (∀ count, ((ofLexer lexer).nextMany count).1 =
        (items.take count).map some ++ List.replicate (count - items.length) none) ∧
      ts.length ≤ byteLength lexer.rest + bodySize lexer.source.bytes + lexer.held := by
  obtain ⟨ts, after, htakes, hlast⟩ := lexer.exists_takes
  have hbound : ts.length ≤ byteLength lexer.rest + bodySize lexer.source.bytes + lexer.held := by
    have hsupply := htakes.supply_le
    have hlines := lexer.source.bodySize_lines_le
    have hchars := length_le_byteLength lexer.rest
    simp only [Lexer.supply] at hsupply
    omega
  cases hresult : after.nextToken.result with
  | ok found =>
    cases found with
    | some t => exact absurd hresult (hlast t)
    | none =>
      have hall : (ofLexer lexer).all.1 = ts.map .ok ++ [] := by
        rw [all_append_of_takes htakes, all_eq (ofLexer after), next_of_ok hresult]
        rfl
      exact ⟨ts, after, none, htakes, hresult, hall, fun count => hall ▸ nextMany_eq count _, hbound⟩
  | error error =>
    have hall : (ofLexer lexer).all.1 = ts.map .ok ++ [.error error] := by
      rw [all_append_of_takes htakes, all_of_error hresult]
    exact ⟨ts, after, some error, htakes, hresult, hall, fun count => hall ▸ nextMany_eq count _,
      hbound⟩

end Linewise
