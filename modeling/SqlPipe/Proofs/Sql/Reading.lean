import SqlPipe.Proofs.Sql.Parsing
import SqlPipe.Proofs.Sql.Pieces

/-!
# Tokens that are read as values

Which value a parser reads from given tokens, in front of what ends them.  A list with commas is
read item by item.
-/

namespace SqlPipe.Sql

open SqlPipe.Sql.Parser

variable {α : Type} {context : Context}

/-- In front of what ends them, the parser reads the tokens as the value. -/
def Reads (context : Context) (parser : Parser α) (tokens : List Token)
    (ends : List Located → Prop) (value : α) : Prop :=
  ∀ ⦃located rest⦄, located.map Located.token = tokens → ends rest →
    parser context (located ++ rest) = .ok (value, rest)

theorem exists_located {located : List Located} {token : Token} {tokens : List Token}
    (htokens : located.map Located.token = token :: tokens) :
    ∃ place gap others, located = ⟨token, place, gap⟩ :: others ∧
      others.map Located.token = tokens := by
  obtain ⟨⟨first, place, gap⟩, others, rfl, rfl, hothers⟩ := List.map_eq_cons_iff.mp htokens
  exact ⟨place, gap, others, rfl, hothers⟩

theorem exists_parenthesized {located : List Located} {tokens : List Token}
    (htokens : located.map Located.token = .symbol "(" :: (tokens ++ [.symbol ")"])) :
    ∃ place gap inside place' gap', located =
        ⟨.symbol "(", place, gap⟩ :: (inside ++ [⟨.symbol ")", place', gap'⟩]) ∧
      inside.map Located.token = tokens := by
  obtain ⟨place, gap, others, rfl, hothers⟩ := exists_located htokens
  obtain ⟨inside, closing, rfl, hinside, hclosing⟩ := List.map_eq_append_iff.mp hothers
  obtain ⟨place', gap', none, rfl, hnone⟩ := exists_located hclosing
  obtain rfl := List.map_eq_nil_iff.mp hnone
  exact ⟨place, gap, inside, place', gap', rfl, hinside⟩

/-- What ends a list: it ends an item, and is no comma. -/
def EndsList (ends : List Located → Prop) (rest : List Located) : Prop :=
  ends rest ∧ tokenAt rest ≠ some (.symbol ",")

/-- Behind an item of a list the item ends, whether another one follows or not. -/
theorem ends_of_items {ends : List Located → Prop} {items : List (List Token × α)}
    {later rest : List Located} (hcomma : ∀ ⦃rest⦄, tokenAt rest = some (.symbol ",") → ends rest)
    (hlater : later.map Located.token = items.flatMap fun item => .symbol "," :: item.1)
    (hends : EndsList ends rest) : ends (later ++ rest) := by
  cases items with
  | nil =>
      obtain rfl := List.map_eq_nil_iff.mp hlater
      exact hends.1
  | cons item items =>
      rw [List.flatMap_cons, List.cons_append] at hlater
      obtain ⟨comma, others, rfl, hsymbol, -⟩ := List.map_eq_cons_iff.mp hlater
      apply hcomma
      simp [tokenAt, hsymbol]

section Lists

variable {parser : Parser α} {ends : List Located → Prop} {items : List (List Token × α)}
  (hcomma : ∀ ⦃rest⦄, tokenAt rest = some (.symbol ",") → ends rest)
  (hitems : ∀ item ∈ items, Reads context parser item.1 ends item.2)

include hcomma hitems

theorem reads_commaTail (read : List α) {rounds : ℕ} (hrounds : items.length ≤ rounds) :
    Reads context (commaTail parser read rounds)
      (items.flatMap fun item => .symbol "," :: item.1) (EndsList ends)
      (read.reverse ++ items.map Prod.snd) := by
  -- Each round takes one item; without items the parser stops, whether rounds are left or not.
  induction items generalizing read rounds with
  | nil =>
      intro located rest htokens hends
      obtain rfl := List.map_eq_nil_iff.mp htokens
      simp only [List.map_nil, List.append_nil, List.nil_append]
      cases rounds with
      | zero => exact pure_eq
      | succ rounds =>
          unfold commaTail
          exact ok_bind (symbol?_of_ne hends.2) pure_eq
  | cons item items ih =>
      intro located rest htokens hends
      obtain ⟨rounds, rfl⟩ : ∃ fewer, rounds = fewer + 1 :=
        ⟨rounds - 1, by rw [List.length_cons] at hrounds; omega⟩
      rw [List.flatMap_cons, List.cons_append] at htokens
      obtain ⟨comma, others, rfl, hsymbol, hothers⟩ := List.map_eq_cons_iff.mp htokens
      obtain ⟨first, later, rfl, hfirst, hlater⟩ := List.map_eq_append_iff.mp hothers
      have hitem := hitems item List.mem_cons_self hfirst (ends_of_items hcomma hlater hends)
      have hothers := ih (fun item h => hitems item (List.mem_cons_of_mem _ h)) (item.2 :: read)
        (Nat.le_of_succ_le_succ hrounds) hlater hends
      unfold commaTail
      rw [List.cons_append]
      refine ok_bind (symbol?_of_eq hsymbol) ?_
      rw [List.append_assoc]
      refine ok_bind hitem ?_
      rw [hothers]
      simp

theorem reads_commaSeparated (hne : items ≠ [])
    (hbound : ([Token.symbol ","].intercalate (items.map Prod.fst)).length < context.bound) :
    Reads context (commaSeparated parser) ([Token.symbol ","].intercalate (items.map Prod.fst))
      (EndsList ends) (items.map Prod.snd) := by
  have hcount := length_le_intercalate (List.cons_ne_nil (Token.symbol ",") [])
    (items.map Prod.fst)
  rw [List.length_map] at hcount
  obtain ⟨item, items, rfl⟩ := List.exists_cons_of_ne_nil hne
  have hrounds : items.length ≤ context.bound := by
    rw [List.length_cons] at hcount
    omega
  intro located rest htokens hends
  rw [List.map_cons, intercalate_cons, List.flatMap_map] at htokens
  obtain ⟨first, later, rfl, hfirst, hlater⟩ := List.map_eq_append_iff.mp htokens
  have hitem := hitems item List.mem_cons_self hfirst (ends_of_items hcomma hlater hends)
  have hothers := reads_commaTail hcomma (fun other h => hitems other (List.mem_cons_of_mem _ h))
    [item.2] hrounds hlater hends
  unfold commaSeparated
  rw [List.append_assoc]
  exact ok_bind hitem (ok_bind read_eq hothers)

end Lists

end SqlPipe.Sql
