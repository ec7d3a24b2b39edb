import Bindery.Packages.Lexers

namespace Bindery.Packages

open Typst

theorem mem_bytes_of_mem {s : String} {c : Char} {b : UInt8} (h : c ∈ s.toList)
    (hb : b ∈ String.utf8EncodeChar c) : b ∈ s.toByteArray.data.toList := by
  rw [← String.utf8Encode_toList, List.utf8Encode, List.toList_data_toByteArray]
  exact List.mem_flatMap.2 ⟨c, h, hb⟩

/-- The lexers that are installed are as it is asked. -/
theorem lexers_plain : lexers.Plain := by
  -- Over the bytes of the names: decoding them all in the kernel takes ten times as long.
  have hall : languages.all (fun l => l.labels.all fun word =>
      word.toByteArray.data.toList.all fun b => b != 0x60 && b != 0x0a) = true := by
    decide +kernel
  intro label names hnames name hname
  obtain ⟨language, hfind, rfl⟩ := Option.map_eq_some_iff.1 hnames
  obtain ⟨word, hword, rfl⟩ := List.mem_map.1 hname
  have hlanguage := List.all_eq_true.1 hall language (List.mem_of_find?_eq_some hfind)
  have hbytes := List.all_eq_true.1 (List.all_eq_true.1 hlanguage word hword)
  constructor
  · intro hmem
    exact absurd (hbytes 0x60 (mem_bytes_of_mem hmem (by decide))) (by decide)
  · intro hmem
    exact absurd (hbytes 0x0a (mem_bytes_of_mem hmem (by decide))) (by decide)

end Bindery.Packages
