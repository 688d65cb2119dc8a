import BlogMarkdown.Text.Ranges
/-!
# Direction and joining data of domain names

The data behind the order in which the characters of a domain name are shown. Ranges may hold
characters that no name holds.
-/
namespace BlogMarkdown.Url.Domain

open Text Ranges

/-- Letters that are written from right to left. -/
def right : Array (Nat × Nat) := ofHex [
  "5be 5c0 5c3 5c6 5d0-5f4 608 60b 60d 61b-64a 66d-66f 671-6d5 6e5-6e6 6ee-6ef 6fa-710 712-72f",
  "74d-7a5 7b1-7ea 7f4-7f5 7fa 7fe-815 81a 824 828 830-858 85e-88f 8a0-8c9 fbb2-fbc2 fe73",
  "10800-1091b 10920-10a00 10a10-10a35 10a40-10ae4 10aeb-10b35 10b40-10d23 10d4a-10d4f 10d6f-10d8f",
  "10e80-10ea9 10ead-10ec7 10f00-10f45 10f51-10f81 10f86-10ff6 1e800-1e8cf 1e922-1e943 1e94b-1ed3d"]

/-- Arabic digits and what goes with them, which stand in order from left to right. -/
def arabicNumber : Array (Nat × Nat) := ofHex [
  "660-669 66b-66c 10d30-10d49 10e60-10e7e"]

/-- European digits. -/
def europeanNumber : Array (Nat × Nat) := ofHex [
  "30-39 6f0-6f9 102e1-102fb"]

/-- Signs, separators and symbols, which follow the direction around them. -/
def neutral : Array (Nat × Nat) := ofHex [
  "0-8 e-1b 21-2f 3a-60 7b-d7 f7 2b9-2ba 2c2-2cf 2d2-2ed 2ef-2ff 375 3f6 58a-58f 606-607 609-60a",
  "60c 60e-60f 66a 6de 6e9 7f6-7f9 9f2-9f3 9fb af1 bf3-bfa c78-c7e e3f f3a-f3d 1390-1399 1400",
  "169b-169c 17db 17f0-180a 1940-1945 19de-19ff 200c-20c1 2104-214d 218a-2335 237b-2394 2396-26ab",
  "26ad-27ff 2900-2bff 2ce5-2cea 2cf9-2cff 2e00-3004 3008-3020 3030 3037 303d-303f 30a0 30fb",
  "31c0-31e5 4dc0-4dff a490-a4c6 a60d-a60f a673 a67e-a67f a700-a721 a788 a828-a82b a838-a839",
  "a874-a877 ab6a-ab6b fbc3-fdff fe45-fe46 10101 10140-1018c 10190-101a0 1091f 10b39-10b3f 10d6e",
  "10ed0-10ed8 11052-11065 11660-1166c 11fd5-11ff1 16fe2 1cc00-1cef0 1d1e9-1d241 1d245 1d300-1d356",
  "1e2ff 1eef0-1f12f 1f16d-1f16f 1f1ad 1f260-1fbfa"]

/-- Marks without space of their own that are shown from left to right. -/
def leftMark : Array (Nat × Nat) := ofHex [
  "cbf cc6 11a07-11a08 11c3f"]

/-- Letters that join the letters on both sides. -/
def joinsBoth : Array (Nat × Nat) := ofHex [
  "620 626 628 62a-62e 633-63f 641-647 649-64a 66e-66f 679-687 69a-6bf 6c1-6c2 6cc 6ce 6d0-6d1",
  "6fa-6fc 6ff 712-714 71a-71d 71f-727 729 72b 72d-72e 74e-758 75c-76a 76d-770 772 775-777 77a-77f",
  "7ca-7ea 841-845 848 84a-853 855 860 862-865 868 886 889-88d 88f 8a0-8a9 8af-8b0 8b3-8b8 8ba-8c8",
  "1807 1820-1878 1887-18a8 18aa a840-a871 10ac0-10ac4 10ad3-10ad6 10ad8-10adc 10ade-10ae0",
  "10aeb-10aee 10b80 10b82 10b86-10b88 10b8a-10b8b 10b8d 10b90 10bad-10bae 10d01-10d21 10d23",
  "10ec3-10ec4 10ec6-10ec7 10f30-10f32 10f34-10f44 10f51-10f53 10f70-10f73 10f76-10f81 10fb0",
  "10fb2-10fb3 10fb8 10fbb-10fbc 10fbe-10fbf 10fc1 10fc4 10fca 1e922-1e943"]

/-- Letters that join only the letter behind them. -/
def joinsAfter : Array (Nat × Nat) := ofHex [
  "a872 10acd 10ad7 10d00 10fcb"]

/-- Letters that join only the letter before them. -/
def joinsBefore : Array (Nat × Nat) := ofHex [
  "622-625 627 629 62f-632 648 671-673 688-699 6c0 6c3-6cb 6cd 6cf 6d2-6d3 6d5 6ee-6ef 710 715-719",
  "71e 728 72a 72c 72f 74d 759-75b 76b-76c 771 773-774 778-779 840 846-847 849 854 856-858 867",
  "869-882 88e 8aa-8ac 8ae 8b1-8b2 8b9 10ac5 10ac7 10ac9-10aca 10ace-10ad2 10add 10ae1 10ae4 10aef",
  "10b81 10b83-10b85 10b89 10b8c 10b8e-10b8f 10b91 10ba9-10bac 10d22 10ec2 10f33 10f54 10f74-10f75",
  "10fb4-10fb6 10fb9-10fba 10fbd 10fc2-10fc3 10fc9"]

end BlogMarkdown.Url.Domain
