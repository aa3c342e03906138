import ImageFiling.Proofs.Text.Case
import ImageFiling.Proofs.Text.Digits
import ImageFiling.Proofs.Url.Parts
import ImageFiling.Url.Host

/-!
# What a host is written with

A host is cut out of the authority of its URL and put in lower case, so no slash stands in it.
-/

namespace ImageFiling.Url

theorem mem_authority_of_mem_hostAndPort {url : Url} {c : Char} (member : c ∈ url.hostAndPort.1) :
    c ∈ url.authority := by
  apply Text.mem_of_mem_afterLast (c := '@')
  unfold hostAndPort at member
  dsimp only at member
  split at member
  · next bracketed cut =>
    apply Text.mem_of_mem_cut_rest (c := '[')
    rw [cut]
    exact Text.mem_of_mem_cut member
  · exact Text.mem_of_mem_cut member

theorem mem_authority_of_mem_hostname {url : Url} {c : Char} (positive : 0 < c.toNat)
    (small : c.toNat < 65) (member : c ∈ url.hostname) : c ∈ url.authority := by
  apply mem_authority_of_mem_hostAndPort
  rcases List.mem_append.mp member with lowered | zone
  · exact (List.takeWhile_sublist _).subset (Text.mem_of_mem_lower positive small lowered)
  · exact (List.dropWhile_sublist _).subset zone

theorem slash_not_mem_host {t : Text} {url : Url} (accepted : split t = .ok url) :
    '/' ∉ url.host := by
  have name : '/' ∉ url.hostname := fun member =>
    not_mem_authority accepted (by decide)
      (mem_authority_of_mem_hostname (by decide) (by decide) member)
  have bracketed : '/' ∉ (if url.hostname.contains ':' then '[' :: url.hostname ++ [']']
      else url.hostname) := by
    split
    · simpa using name
    · exact name
  have numeral (n : Nat) : '/' ∉ Text.numeral n := fun digit =>
    absurd (Text.isDigit_of_mem_numeral digit) (by decide)
  unfold host
  dsimp only
  split
  · next port _ =>
    split
    · exact bracketed
    · intro member
      rcases List.mem_append.mp member with inName | inPort
      · exact bracketed inName
      · rcases List.mem_cons.mp inPort with colon | digit
        · exact absurd colon (by decide)
        · exact numeral port digit
  · exact bracketed

end ImageFiling.Url
