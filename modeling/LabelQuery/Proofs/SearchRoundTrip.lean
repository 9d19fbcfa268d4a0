import LabelQuery.Search.QueryLaws
import LabelQuery.Proofs.QueryString
/-!
# Reading a search query back from its query string

A search query writes itself as a query string (`toQueryString`): the parameters it was read
from, with its name, page, page size and labels written over their own parameters. Reading that
string back under the query's configuration gives the same search, up to the empty values a query
string does not carry: an empty name, a zero page or page size and empty labels are left out when
written, and read back as absent.

This holds for every query that can be built (`SearchQuery.Reachable`), since those are the
queries known to have a usable configuration (four distinct parameter names, so that no field's
parameter is written over by another's) and page numbers that fit in 32 bits, so that they read
back as themselves.
-/

namespace LabelQuery

open Text

namespace SearchQuery

/-- Labels are written when not empty; read back with the empty text as default, they are the
labels again. -/
theorem getD_written_labels (q : SearchQuery) :
    (if q.labels.isEmpty then none else some q.labels).getD "" = q.labels := by
  split
  · next h => exact (String.isEmpty_iff.mp h).symm
  · rfl

/-- A page number kept by the positive filter is one of the query's, so it fits in 32 bits. -/
theorem lt_of_mem_filter_pos {page : Option Nat} (h : ∀ n ∈ page, n < word32Bound) :
    ∀ n ∈ page.filter (0 < ·), n < word32Bound := fun n hn ↦
  h n (Option.mem_filter_iff.mp hn).1

/-- **A query reads back from its own query string.** For every query that can be built,
reading its query string under its configuration succeeds, with the written parameters as
source, the name when not empty, the page and page size when positive, and the same labels. -/
theorem toQueryString_reads_back {q : SearchQuery} (h : Reachable q) :
    ∃ q', withConfig (QueryParams.parse q.toQueryString) q.config = .ok q' ∧
      q'.source = q.toParams ∧ q'.name = q.name.filter (fun n ↦ !n.isEmpty) ∧
      q'.page = q.page.filter (0 < ·) ∧ q'.pageSize = q.pageSize.filter (0 < ·) ∧
      q'.labels = q.labels := by
  have hw := h.wellFormed
  obtain ⟨hname, hpage, hsize, hlabels⟩ :=
    get?_toParams q (SearchConfig.nodup_of_validate hw.config)
  rw [toQueryString, QueryParams.parse_encode]
  refine ⟨_, withConfig_eq_ok_iff.mpr ⟨hw.config, q.page.filter (0 < ·), ?page, rfl⟩,
    rfl, ?name, rfl, ?pageSize, ?labels⟩
  case page =>
    rw [hpage]
    exact readPage_toString _ (lt_of_mem_filter_pos hw.page)
  case name =>
    show Option.filter _ (q.toParams.get? _) = _
    rw [hname, Option.filter_filter]
    simp only [Bool.and_self]
  case pageSize =>
    show ((q.toParams.get? _).map trim).bind readWord32? = _
    rw [hsize]
    exact bind_readWord32?_toString (lt_of_mem_filter_pos hw.pageSize)
  case labels =>
    show (q.toParams.get? _).getD "" = _
    rw [hlabels]
    exact getD_written_labels q

/-- A query named, paged and given labels from the empty one reads back from its query string. -/
theorem toQueryString_reads_back_edited :
    let q : SearchQuery :=
      ((({} : SearchQuery).setName (some "web")).setPage (some 3)).setLabels "env = prod"
    Reachable q ∧ ∃ q', withConfig (QueryParams.parse q.toQueryString) q.config = .ok q' ∧
      q'.source = q.toParams ∧ q'.name = q.name.filter (fun n ↦ !n.isEmpty) ∧
      q'.page = q.page.filter (0 < ·) ∧ q'.pageSize = q.pageSize.filter (0 < ·) ∧
      q'.labels = q.labels := by
  intro q
  have hq : Reachable q :=
    .setLabels "env = prod" (.setPage (some 3) (.setName (some "web") .new))
  exact ⟨hq, toQueryString_reads_back hq⟩

end SearchQuery

end LabelQuery
