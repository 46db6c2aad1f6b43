import SqlPipe.Url.Parser
import SqlPipe.Proofs.Sql.Lexing
import SqlPipe.Proofs.Text.Splitting
import Mathlib.Data.Bool.AllAny

/-!
# Schemes in front of texts

A text that begins with the small letters of a scheme and a colon is read as a URL of this scheme,
and what stands behind the colon loses the blanks at its end before it is read on.
-/

namespace SqlPipe.Url

/-! ## Cleaning -/

/-- A text without blanks and controls. -/
def Visible (text : List Char) : Prop :=
  ∀ c ∈ text, isControlOrBlank c = false

/-- A text without the blanks and controls at its end, and without tabs and line breaks. -/
def cleanedBehind (text : List Char) : List Char :=
  (text.reverse.dropWhile isControlOrBlank).reverse.filter
    fun c => c != '\t' && c != '\n' && c != '\r'

variable {front behind text scheme : List Char}

theorem visible_append : Visible (front ++ behind) ↔ Visible front ∧ Visible behind :=
  List.forall_mem_append

theorem Visible.filter_eq (htext : Visible text) :
    text.filter (fun c => c != '\t' && c != '\n' && c != '\r') = text := by
  rw [List.filter_eq_self]
  intro c hc
  have hvisible := htext c hc
  simp only [Bool.and_eq_true, bne_iff_ne]
  refine ⟨⟨?_, ?_⟩, ?_⟩ <;>
  · rintro rfl
    exact absurd hvisible (by decide)

theorem cleanedBehind_append (hsome : front ≠ []) (hfront : Visible front) (text : List Char) :
    cleanedBehind (front ++ text) = front ++ cleanedBehind text := by
  have hending : (front ++ text).reverse.dropWhile isControlOrBlank =
      text.reverse.dropWhile isControlOrBlank ++ front.reverse := by
    obtain ⟨d, others, hlast⟩ := List.exists_cons_of_ne_nil (List.reverse_ne_nil_iff.mpr hsome)
    have hd : d ∈ front := List.mem_reverse.mp (hlast ▸ List.mem_cons_self)
    rw [List.reverse_append, hlast, Text.dropWhile_append_of_stop (hfront d hd)]
  rw [cleanedBehind, hending, List.reverse_append, List.reverse_reverse, List.filter_append,
    hfront.filter_eq]
  rfl

theorem cleanedBehind_of_visible (htext : Visible text) : cleanedBehind text = text := by
  by_cases hsome : text = []
  · rw [hsome]
    rfl
  · have happend := cleanedBehind_append hsome htext []
    rwa [List.append_nil, show cleanedBehind [] = [] from rfl, List.append_nil] at happend

theorem cleaned_append (hsome : front ≠ []) (hfront : Visible front) (text : List Char) :
    cleaned (front ++ text) = front ++ cleanedBehind text := by
  have hbeginning : (front ++ text).dropWhile isControlOrBlank = front ++ text := by
    obtain ⟨c, others, rfl⟩ := List.exists_cons_of_ne_nil hsome
    rw [List.cons_append, List.dropWhile_cons_of_neg]
    rw [hfront c List.mem_cons_self]
    exact Bool.false_ne_true
  rw [← cleanedBehind_append hsome hfront, cleaned, hbeginning]
  rfl

/-! ## Schemes -/

/-- A scheme in small letters. -/
structure IsScheme (scheme : List Char) : Prop where
  nonempty : scheme ≠ []
  small : ∀ c ∈ scheme, c.isLower = true

instance : Decidable (IsScheme scheme) :=
  decidable_of_iff (scheme ≠ [] ∧ scheme.all Char.isLower = true)
    ⟨fun h => ⟨h.1, List.all_eq_true.mp h.2⟩, fun h => ⟨h.nonempty, List.all_eq_true.mpr h.small⟩⟩

theorem toLower_of_isLower {c : Char} (hc : c.isLower = true) : c.toLower = c := by
  refine dif_neg fun hcapital => ?_
  have hbound : c.toNat ≤ 0x5A := UInt32.le_iff_toNat_le.mp hcapital.2
  have hsmall := (Sql.isLower_iff.mp hc).1
  omega

theorem IsScheme.visible (hscheme : IsScheme scheme) : Visible scheme := by
  intro c hc
  have hsmall := (Sql.isLower_iff.mp (hscheme.small c hc)).1
  rw [isControlOrBlank, decide_eq_false_iff_not]
  omega

theorem IsScheme.readScheme?_append (hscheme : IsScheme scheme) (text : List Char) :
    readScheme? (scheme ++ ':' :: text) = some (scheme, text) := by
  have hspan : (scheme ++ ':' :: text).span
      (fun c => c.isAlphanum || c == '+' || c == '-' || c == '.') = (scheme, ':' :: text) := by
    apply Text.span_append
    · intro c hc
      simp [Char.isAlphanum, Sql.isAlpha_of_isLower (hscheme.small c hc)]
    · rintro c ⟨⟩
      decide
  have hlower : scheme.map Char.toLower = scheme :=
    (List.map_congr_left fun c hc => toLower_of_isLower (hscheme.small c hc)).trans
      (List.map_id scheme)
  obtain ⟨first, others, rfl⟩ := List.exists_cons_of_ne_nil hscheme.nonempty
  have hfirst : first.isAlpha = true :=
    Sql.isAlpha_of_isLower (hscheme.small first List.mem_cons_self)
  rw [readScheme?, hspan]
  simp only [hfirst, if_true, hlower]

/-- What stands behind the two slashes of a scheme that is not one of files.  A scheme of the web
passes further slashes. -/
def readSlashed (scheme rest : List Char) : Except Fault Url :=
  match SchemeKind.of scheme with
  | .other => readWithAuthority scheme .other rest
  | kind => readWithAuthority scheme kind (rest.dropWhile fun c => c == '/' || c == '\\')

def addressText (scheme rest : List Char) : List Char :=
  scheme ++ "://".toList ++ rest

theorem IsScheme.parse_addressText
    (hscheme : IsScheme scheme) (hkind : SchemeKind.of scheme ≠ .file) (rest : List Char) :
    parse (String.ofList (addressText scheme rest)) = readSlashed scheme (cleanedBehind rest) := by
  have hvisible : Visible (scheme ++ "://".toList) :=
    visible_append.mpr ⟨hscheme.visible, List.all_iff_forall_prop.mp (by decide)⟩
  have hcleaned : cleaned (addressText scheme rest) =
      scheme ++ ':' :: '/' :: '/' :: cleanedBehind rest := by
    rw [addressText, cleaned_append (by simp) hvisible, List.append_assoc]
    rfl
  rw [parse, String.toList_ofList, hcleaned, hscheme.readScheme?_append]
  dsimp only
  unfold readSlashed
  cases hof : SchemeKind.of scheme with
  | file => exact absurd hof hkind
  | web port => rfl
  | other => rfl

end SqlPipe.Url
