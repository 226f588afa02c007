import PumpTrade.Base.F64
import PumpTrade.Swqos.Types

/-!
# Tips

The tip accounts of `constants/swqos.rs`, as the texts of their keys, and the smallest tips the
services take.

* `tipAccounts`, `tipAccounts_ne_nil`: every service but the default one has tip accounts;
* `minTipSol`: the smallest tip, in SOL.
-/

namespace PumpTrade

open Base

/-- The tip accounts of a service. -/
def tipAccounts : SwqosType → List String
  | .jito =>
    ["96gYZGLnJYVFmbjzopPSU6QiEV5fGqZNyN9nmNhvrZU5",
      "HFqU5x63VTqvQss8hp11i4wVV8bD44PvwucfZ2bU7gRe",
      "Cw8CFyM9FkoMi7K7Crf6HNQqf4uEMzpKw6QNghXLvLkY",
      "ADaUMid9yfUytqMBgopwjb2DTLSokTSzL1zt6iGPaS49",
      "DfXygSm4jCyNCybVYYK6DwvWqjKee8pbDmJGcLWNDXjh",
      "ADuUkR4vqLUMWXxW9gh6D6L8pMSawimctcNZ5pGwDcEt",
      "DttWaMuVvTiduZRnguLF7jNxTgiMBZ1hyAumKUiL2KRL",
      "3AVi9Tg9Uo68tJfuvoKvqKNWKkC5wPdSSdeBnizKZ6jT"]
  | .nextBlock =>
    ["NextbLoCkVtMGcV47JzewQdvBpLqT9TxQFozQkN98pE",
      "NexTbLoCkWykbLuB1NkjXgFWkX9oAtcoagQegygXXA2",
      "NeXTBLoCKs9F1y5PJS9CKrFNNLU1keHW71rfh7KgA1X",
      "NexTBLockJYZ7QD7p2byrUa6df8ndV2WSd8GkbWqfbb",
      "neXtBLock1LeC67jYd1QdAa32kbVeubsfPNTJC1V5At",
      "nEXTBLockYgngeRmRrjDV31mGSekVPqZoMGhQEZtPVG",
      "NEXTbLoCkB51HpLBLojQfpyVAMorm3zzKg7w9NFdqid",
      "nextBLoCkPMgmG8ZgJtABeScP35qLa2AMCNKntAP7Xc"]
  | .zeroSlot =>
    ["Eb2KpSC8uMt9GmzyAEm5Eb1AAAgTjRaXWFjKyFXHZxF3",
      "FCjUJZ1qozm1e8romw216qyfQMaaWKxWsuySnumVCCNe",
      "ENxTEjSQ1YabmUpXAdCgevnHQ9MHdLv8tzFiuiYJqa13",
      "6rYLG55Q9RpsPGvqdPNJs4z5WTxJVatMB8zV3WJhs5EK",
      "Cix2bHfqPcKcM233mzxbLk14kSggUUiz2A87fJtGivXr"]
  | .temporal =>
    ["TEMPaMeCRFAS9EKF53Jd6KpHxgL47uWLcpFArU1Fanq",
      "noz3jAjPiHuBPqiSPkkugaJDkJscPuRhYnSpbi8UvC4",
      "noz3str9KXfpKknefHji8L1mPgimezaiUyCHYMDv1GE",
      "noz6uoYCDijhu1V7cutCpwxNiSovEwLdRHPwmgCGDNo",
      "noz9EPNcT7WH6Sou3sr3GGjHQYVkN3DNirpbvDkv9YJ",
      "nozc5yT15LazbLTFVZzoNZCwjh3yUtW86LoUyqsBu4L",
      "nozFrhfnNGoyqwVuwPAW4aaGqempx4PU6g6D9CJMv7Z",
      "nozievPk7HyK1Rqy1MPJwVQ7qQg2QoJGyP71oeDwbsu",
      "noznbgwYnBLDHu8wcQVCEw6kDrXkPdKkydGJGNXGvL7",
      "nozNVWs5N8mgzuD3qigrCG2UoKxZttxzZ85pvAQVrbP",
      "nozpEGbwx4BcGp6pvEdAh1JoC2CQGZdU6HbNP1v2p6P",
      "nozrhjhkCr3zXT3BiT4WCodYCUFeQvcdUkM7MqhKqge",
      "nozrwQtWhEdrA6W8dkbt9gnUaMs52PdAv5byipnadq3",
      "nozUacTVWub3cL4mJmGCYjKZTnE9RbdY5AP46iQgbPJ",
      "nozWCyTPppJjRuw2fpzDhhWbW355fzosWSzrrMYB1Qk",
      "nozWNju6dY353eMkMqURqwQEoM3SFgEKC6psLCSfUne",
      "nozxNBgWohjR75vdspfxR5H9ceC7XXH99xpxhVGt3Bb"]
  | .bloxroute =>
    ["HWEoBxYs7ssKuudEjzjmpfJVX7Dvi7wescFsVx2L5yoY",
      "95cfoy472fcQHaw4tPGBTKpn6ZQnfEPfBgDQx6gcRmRg",
      "3UQUKjhMKaY2S6bjcQD6yHB7utcZt5bfarRCmctpRtUd",
      "FogxVNs6Mm2w9rnGL1vkARSwJxvLE8mujTv3LK8RnUhF"]
  | .node1 =>
    ["node1PqAa3BWWzUnTHVbw8NJHC874zn9ngAkXjgWEej",
      "node1UzzTxAAeBTpfZkQPJXBAqixsbdth11ba1NXLBG",
      "node1Qm1bV4fwYnCurP8otJ9s5yrkPq7SPZ5uhj3Tsv",
      "node1PUber6SFmSQgvf2ECmXsHP5o3boRSGhvJyPMX1",
      "node1AyMbeqiVN6eoQzEAwCA6Pk826hrdqdAHR7cdJ3",
      "node1YtWCoTwwVYTFLfS19zquRQzYX332hs1HEuRBjC"]
  | .flashBlock =>
    ["FLaShB3iXXTWE1vu9wQsChUKq3HFtpMAhb8kAh1pf1wi",
      "FLashhsorBmM9dLpuq6qATawcpqk1Y2aqaZfkd48iT3W",
      "FLaSHJNm5dWYzEgnHJWWJP5ccu128Mu61NJLxUf7mUXU",
      "FLaSHR4Vv7sttd6TyDF4yR1bJyAxRwWKbohDytEMu3wL",
      "FLASHRzANfcAKDuQ3RXv9hbkBy4WVEKDzoAgxJ56DiE4",
      "FLasHstqx11M8W56zrSEqkCyhMCCpr6ze6Mjdvqope5s",
      "FLAShWTjcweNT4NSotpjpxAkwxUr2we3eXQGhpTVzRwy",
      "FLasHXTqrbNvpWFB6grN47HGZfK6pze9HLNTgbukfPSk",
      "FLAshyAyBcKb39KPxSzXcepiS8iDYUhDGwJcJDPX4g2B",
      "FLAsHZTRcf3Dy1APaz6j74ebdMC6Xx4g6i9YxjyrDybR"]
  | .blockRazor =>
    ["FjmZZrFvhnqqb9ThCuMVnENaM3JGVuGWNyCAxRJcFpg9",
      "6No2i3aawzHsjtThw81iq1EXPJN6rh8eSJCLaYZfKDTG",
      "A9cWowVAiHe9pJfKAj3TJiN9VpbzMUq6E4kEvf5mUT22",
      "Gywj98ophM7GmkDdaWs4isqZnDdFCW7B46TXmKfvyqSm",
      "68Pwb4jS7eZATjDfhmTXgRJjCiZmw1L7Huy4HNpnxJ3o",
      "4ABhJh5rZPjv63RBJBuyWzBK3g9gWMUQdTZP2kiW31V9",
      "B2M4NG5eyZp5SBQrSdtemzk5TqVuaWGQnowGaCBt8GyM",
      "5jA59cXMKQqZAVdtopv8q3yyw9SYfiE3vUCbt7p8MfVf",
      "5YktoWygr1Bp9wiS1xtMtUki1PeYuuzuCF98tqwYxf61",
      "295Avbam4qGShBYK7E9H5Ldew4B3WyJGmgmXfiWdeeyV",
      "EDi4rSy2LZgKJX74mbLTFk4mxoTgT6F7HxxzG2HBAFyK",
      "BnGKHAC386n4Qmv9xtpBVbRaUTKixjBe3oagkPFKtoy6",
      "Dd7K2Fp7AtoN8xCghKDRmyqr5U169t48Tw5fEd3wT9mq",
      "AP6qExwrbRgBAVaehg4b5xHENX815sMabtBzUzVB4v8S"]
  | .astralane =>
    ["astrazznxsGUhWShqgNtAdfrzP2G83DzcWVJDxwV9bF",
      "astra4uejePWneqNaJKuFFA8oonqCE1sqF6b45kDMZm",
      "astra9xWY93QyfG6yM8zwsKsRodscjQ2uU2HKNL5prk",
      "astraRVUuTHjpwEVvNBeQEgwYx9w9CFyfxjYoobCZhL",
      "astraEJ2fEj8Xmy6KLG7B3VfbKfsHXhHrNdCQx7iGJK",
      "astraubkDw81n4LuutzSQ8uzHCv4BhPVhfvTcYv8SKC",
      "astraZW5GLFefxNPAatceHhYjfA1ciq9gvfEg2S47xk",
      "astrawVNP4xDBKT7rAdxrLYiTSTdqtUr63fSMduivXK"]
  | .stellium =>
    ["ste11JV3MLMM7x7EJUM2sXcJC1H7F4jBLnP9a9PG8PH",
      "ste11MWPjXCRfQryCshzi86SGhuXjF4Lv6xMXD2AoSt",
      "ste11p5x8tJ53H1NbNQsRBg1YNRd4GcVpxtDw8PBpmb",
      "ste11p7e2KLYou5bwtt35H7BM6uMdo4pvioGjJXKFcN",
      "ste11TMV68LMi1BguM4RQujtbNCZvf1sjsASpqgAvSX"]
  | .lightspeed =>
    ["53PhM3UTdMQWu5t81wcd35AHGc5xpmHoRjem7GQPvXjA",
      "9tYF5yPDC1NP8s6diiB3kAX6ZZnva9DM3iDwJkBRarBB"]
  | .soyas =>
    ["soyas4s6L8KWZ8rsSk1mF3d1mQScoTGGAgjk98bF8nP",
      "soyascXFW5wEEYiwfEmHy2pNwomqzvggJosGVD6TJdY",
      "soyasDBdKjADwPz3xk82U3TNPRDKEWJj7wWLajNHZ1L",
      "soyasE2abjBAynmHbGWgEwk4ctBy7JMTUCNrMbjcnyH"]
  | .speedlanding =>
    ["SpEEdz8S1KorkMZqjMUxfxrmWwofmp6ReNP2Nx6CUmq",
      "SpeeDy3GJM4wcrQmk1itRFWgidvxX4rwjTLMv78wwjE",
      "SPeEdva37vW8vRtqgYjprQs1g3965icfVN5Rt7SMAyh",
      "speEdrSEpox5GUfHWcBc7tQjRuSfUin2yvB7qoYvvJh",
      "SPeEDmkHkN3A2roSZf6aZyEMsmrGqTHKqwP51y2Y4rV",
      "SpeedLdTJXh2RKpXEaP8JCxkWoUVXhtdPQ1EnxBJMxc",
      "SpEediGKLbbXndSYTzwmz6Z3NDgHQLDcTDEvGFkSMH9",
      "speede8xCcUq2Tiv1efXeTuE3k9TDNq8TnGKaKSc6J4"]
  | .helius =>
    ["4ACfpUFoaSD9bfPdeu6DBt89gB6ENTeHBXCAi87NhDEE",
      "D2L6yPZ2FmmmTKPgzaMKdhu6EWZcTpLy1Vhx8uvZe7NZ",
      "9bnz4RShgq1hAnLnZbP8kbgBg1kEmcJBYQq3gQbmnSta",
      "5VY91ws6B2hMmBFRsXkoAAdsPHBJwRfBht4DXox3xkwn",
      "2nyhqdwKcJZR2vcqCyrYsaPVdAnFoJjiksCXJ7hfEYgD",
      "2q5pghRs6arqVjRvT5gfgWfWcHWmw1ZuCzphgd5KfWGJ",
      "wyvPkWjVZz1M8fHQnMMCDTQDbkManefNNhweYk5WkcF",
      "3KCKozbAaF75qEU33jtzozcJ29yJuaLJTy2jFdzUY8bT",
      "4vieeGHPYPG2MmyPRcYjdiDmmhN3ww7hsFNap8pVN3Ey",
      "4TQLFNWK8AovT1gFvda5jfw2oJeRMKEmw7aH6MGBJ3or"]
  | .default => []

theorem tipAccounts_ne_nil {t : SwqosType} (h : t ≠ .default) : tipAccounts t ≠ [] := by
  cases t <;> simp [tipAccounts] at h ⊢

/-- The smallest tip of a service. -/
def minTipSol : SwqosType → F64
  -- 0.00001 SOL
  | .jito | .astralane | .default => ⟨0x3ee4f8b588e368f1⟩
  -- 0.001 SOL
  | .nextBlock | .soyas | .speedlanding => ⟨0x3f50624dd2f1a9fc⟩
  -- 0.0001 SOL
  | .zeroSlot | .temporal | .bloxroute | .node1 | .flashBlock | .blockRazor | .stellium | .lightspeed =>
    ⟨0x3f1a36e2eb1c432d⟩
  -- 0.0002 SOL
  | .helius => ⟨0x3f2a36e2eb1c432d⟩

/-- The smallest tip of Helius where it sends through its own service only: 0.000005 SOL. -/
def minTipHeliusSwqosOnly : F64 := ⟨0x3ed4f8b588e368f1⟩

end PumpTrade
